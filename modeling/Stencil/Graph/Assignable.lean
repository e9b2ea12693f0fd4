import Stencil.Graph.Basic

/-!
# Assignability

A type is assignable to another if it is shown alike, or if a chain of direct
supertypes leads from it to the other.  The chain is searched depth first.
Every type is looked at once, also when it can be reached in several ways, so
declarations that inherit from each other do not trap the search.

Supertypes may apply declarations to ever larger arguments.  A search through
them need not have an end, and then it gives nothing.
-/

namespace Stencil

namespace Graph

/-- The direct supertypes of a type.  A use without arguments of a declaration
with type parameters has erased supertypes; otherwise the parameters stand
for the arguments, as far as there are any. -/
def supertypesOf (graph : Graph) (type : TypeRef) : List TypeRef :=
  match type.declaredName?.bind graph.entry? with
  | none => []
  | some entry =>
    if type.isRaw && !entry.declaration.typeParameters.isEmpty then
      entry.declaration.supertypes.map TypeRef.erasure
    else
      entry.declaration.supertypes.map
        (TypeRef.substitute (entry.declaration.typeParameters.zip type.typeArguments))

/-- Whether a type converts to a target without a further step: it is shown like
the target, or it names the target's declaration without arguments. -/
def arrivesAt (target current : TypeRef) : Bool :=
  current.sameType target ||
    (current.isRaw && current.declaredName? == target.declaredName?)

section Search

variable (graph : Graph) (target : TypeRef)

mutual

/-- Whether a chain of supertypes leads from a type to a target, given the texts
of the types seen so far; with the texts seen afterwards. -/
def reaches (current : TypeRef) (seen : List (List Char)) : Option (Bool × List (List Char)) :=
  let searchAny : List TypeRef → List (List Char) → Option (Bool × List (List Char)) := by
    apply reachesFromAny
  if arrivesAt target current then
    some (true, seen)
  else if current.declaredName?.isNone || seen.contains current.display then
    some (false, seen)
  else
    searchAny (graph.supertypesOf current) (current.display :: seen)
partial_fixpoint

/-- Whether a chain of supertypes leads to a target from one of some types, which
are taken in turn. -/
def reachesFromAny (types : List TypeRef) (seen : List (List Char)) :
    Option (Bool × List (List Char)) :=
  let search : TypeRef → List (List Char) → Option (Bool × List (List Char)) := by
    apply reaches
  let searchAny : List TypeRef → List (List Char) → Option (Bool × List (List Char)) := by
    apply reachesFromAny
  match types with
  | [] => some (false, seen)
  | type :: rest => do
    let (found, seen) ← search type seen
    if found then some (true, seen) else searchAny rest seen
partial_fixpoint

end

end Search

/-- Whether a value of one type can be used as one of another.  There is no answer
if the search for it has no end. -/
def isAssignable (graph : Graph) (source target : TypeRef) : Option Bool :=
  if source.sameType target then
    some true
  else if source.isPrimitive || source.isVoid || target.isPrimitive || target.isVoid then
    some false
  else if target.sameType Library.objectType then
    some true
  else
    (graph.reaches target source []).map (·.1)

end Graph

end Stencil
