import Stencil.TypeRef.Basic

/-!
# The parts of a type

The parts of a type are the types that it is written with, itself included.  A
substitution changes nothing in a type that has no bound name among its parts.
-/

namespace Stencil.TypeRef

mutual

/-- A type, and all types that stand within it. -/
def parts : TypeRef → List TypeRef
  | .plain name => [.plain name]
  | .declared name arguments => .declared name arguments :: partsOfList arguments
  | .array element => .array element :: element.parts
termination_by structural type => type

def partsOfList : List TypeRef → List TypeRef
  | [] => []
  | type :: rest => type.parts ++ partsOfList rest
termination_by structural types => types

end

theorem mem_parts_self (type : TypeRef) : type ∈ type.parts := by
  cases type with
  | plain name => exact List.mem_cons_self
  | declared name arguments => exact List.mem_cons_self
  | array element => exact List.mem_cons_self

theorem mem_partsOfList {type part : TypeRef} {types : List TypeRef} (member : type ∈ types)
    (within : part ∈ type.parts) : part ∈ partsOfList types := by
  induction types with
  | nil => exact absurd member List.not_mem_nil
  | cons first rest ih =>
    rw [partsOfList, List.mem_append]
    rcases List.mem_cons.mp member with rfl | member
    · exact .inl within
    · exact .inr (ih member)

mutual

theorem mem_parts_of_mem_typeArguments {part argument : TypeRef}
    (given : argument ∈ part.typeArguments) :
    ∀ type : TypeRef, part ∈ type.parts → argument ∈ type.parts
  | .plain name, within => by
    rw [parts, List.mem_singleton] at within
    subst within
    exact absurd given List.not_mem_nil
  | .declared name arguments, within => by
    rw [parts, List.mem_cons] at within ⊢
    rcases within with rfl | within
    · exact .inr (mem_partsOfList given (mem_parts_self argument))
    · exact .inr (mem_partsOfList_of_mem_typeArguments given arguments within)
  | .array element, within => by
    rw [parts, List.mem_cons] at within ⊢
    rcases within with rfl | within
    · exact absurd given List.not_mem_nil
    · exact .inr (mem_parts_of_mem_typeArguments given element within)

theorem mem_partsOfList_of_mem_typeArguments {part argument : TypeRef}
    (given : argument ∈ part.typeArguments) :
    ∀ types : List TypeRef, part ∈ partsOfList types → argument ∈ partsOfList types
  | [], within => absurd within List.not_mem_nil
  | type :: rest, within => by
    rw [partsOfList, List.mem_append] at within ⊢
    exact within.imp (mem_parts_of_mem_typeArguments given type)
      (mem_partsOfList_of_mem_typeArguments given rest)

end

mutual

/-- A substitution leaves alone what has no bound name among its parts. -/
theorem substitute_eq_self {bindings : List (String × TypeRef)} :
    ∀ type : TypeRef, (∀ name, .plain name ∈ type.parts → bound? bindings name = none) →
      type.substitute bindings = type
  | .plain name, free => by
    rw [substitute, free name (mem_parts_self _)]
    rfl
  | .declared name arguments, free => by
    rw [substitute, substituteList_eq_self arguments fun other within =>
      free other (List.mem_cons_of_mem _ within)]
  | .array element, free => by
    rw [substitute, substitute_eq_self element fun other within =>
      free other (List.mem_cons_of_mem _ within)]

theorem substituteList_eq_self {bindings : List (String × TypeRef)} :
    ∀ types : List TypeRef,
      (∀ name, .plain name ∈ partsOfList types → bound? bindings name = none) →
      substituteList bindings types = types
  | [], _ => rfl
  | type :: rest, free => by
    rw [substituteList,
      substitute_eq_self type fun name within => free name (List.mem_append_left _ within),
      substituteList_eq_self rest fun name within => free name (List.mem_append_right _ within)]

end

end Stencil.TypeRef
