import Stencil.Text.EditDistance
import Stencil.Text.LowerCase

/-!
# Suggestions for names that nothing has

A name without a declaration is compared with the names that have one.  Names
that differ in case only come first, names that contain one another next, and
all others by the number of edits between them.
-/

namespace Stencil

/-- A name, with its rank: how far it is from the name asked for. -/
structure Suggestion where
  candidate : String
  rank : Nat
  deriving DecidableEq, Repr

/-- Whether the first list stands in the second without a gap. -/
def isWithin (part : List Char) : List Char → Bool
  | [] => part.isEmpty
  | c :: rest => part.isPrefixOf (c :: rest) || isWithin part rest

/-- How far a candidate is from a name. -/
def suggestionRank (name candidate : String) : Nat :=
  let lowerName := Text.lowerCase name
  let lowerCandidate := Text.lowerCase candidate
  if lowerCandidate = lowerName then 0
  else if isWithin lowerName lowerCandidate || isWithin lowerCandidate lowerName then 1
  else Text.editDistance name.toList candidate.toList

/-- The candidates no further than a limit from a name, the nearest first and
equally near ones in their order.  The name itself is not suggested. -/
def suggestSimilar (name : String) (candidates : List String) (limit : Nat) : List Suggestion :=
  let ranked := (candidates.filter (· ≠ name)).map fun candidate =>
    Suggestion.mk candidate (suggestionRank name candidate)
  (ranked.filter (·.rank ≤ limit)).mergeSort fun first second => first.rank ≤ second.rank

end Stencil
