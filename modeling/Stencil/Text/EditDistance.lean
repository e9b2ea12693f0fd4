/-!
# Edit distance

The least number of insertions, deletions and replacements of single elements
that turn one list into another, computed row by row: a row holds the
distances from one list to every prefix of the other, shortest first.
-/

namespace Stencil.Text

variable {α : Type} [DecidableEq α]

/-- The distances from the empty list to every prefix of a list. -/
def firstRow (target : List α) : List Nat :=
  List.range (target.length + 1)

/-- The rest of the next row.  `diagonal` and `above` are the distances of the
previous row before and at the element looked at, `left` the one just written
to the next row. -/
def fillRow (element : α) (diagonal left : Nat) : List α → List Nat → List Nat
  | target :: targets, above :: row =>
    let here :=
      if element = target then diagonal else 1 + min diagonal (min left above)
    here :: fillRow element above here targets row
  | _, _ => []

/-- The row for a list with one element more at its end. -/
def nextRow (targets : List α) (row : List Nat) (element : α) : List Nat :=
  match row with
  | [] => []
  | corner :: rest => (corner + 1) :: fillRow element corner (corner + 1) targets rest

/-- The edit distance between two lists. -/
def editDistance (source target : List α) : Nat :=
  (source.foldl (nextRow target) (firstRow target)).getLastD 0

end Stencil.Text
