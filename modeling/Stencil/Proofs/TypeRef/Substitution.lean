import Stencil.Proofs.TypeRef.Parts

/-!
# Substitutions one after the other

Two substitutions one after the other are one substitution along composed bindings: the
second substitution is made in what the first one binds, and its own bindings come last.
So it is with any number of substitutions.

What a substitution does to a type is a matter of the names among its parts alone.
-/

namespace Stencil.TypeRef

/-- Bindings with a substitution made in the bound types. -/
def substituteBound (second first : List (String × TypeRef)) : List (String × TypeRef) :=
  first.map fun binding => (binding.1, binding.2.substitute second)

/-- The bindings of two substitutions one after the other.  What the first ones bind takes
part in the second substitution; a variable that they do not bind is left to the second
ones. -/
def compose (first second : List (String × TypeRef)) : List (String × TypeRef) :=
  substituteBound second first ++ second

/-- The bindings of any number of substitutions one after the other. -/
def composeAll : List (List (String × TypeRef)) → List (String × TypeRef)
  | [] => []
  | first :: rest => compose first (composeAll rest)

section Bound

variable {first second : List (String × TypeRef)} {name : String}

theorem bound?_append :
    bound? (first ++ second) name = (bound? first name).or (bound? second name) := by
  unfold bound?
  rw [List.find?_append, Option.map_or]

/-- A substitution in the bound types keeps which binding of a variable is the first. -/
theorem bound?_substituteBound :
    bound? (substituteBound second first) name =
      (bound? first name).map (substitute second) := by
  induction first with
  | nil => rfl
  | cons binding rest ih =>
    unfold bound? at ih ⊢
    by_cases same : binding.1 = name
    · simp [substituteBound, same]
    · rw [substituteBound, List.map_cons, List.find?_cons_of_neg (by simpa using same),
        List.find?_cons_of_neg (by simpa using same)]
      exact ih

theorem bound?_compose :
    bound? (compose first second) name =
      ((bound? first name).map (substitute second)).or (bound? second name) := by
  rw [compose, bound?_append, bound?_substituteBound]

end Bound

theorem substitute_nil (type : TypeRef) : type.substitute [] = type :=
  substitute_eq_self type fun _ _ => rfl

mutual

/-- Two substitutions one after the other are one along the composed bindings. -/
theorem substitute_substitute (first second : List (String × TypeRef)) :
    ∀ type : TypeRef, (type.substitute first).substitute second =
      type.substitute (compose first second)
  | .plain name => by
    rw [substitute, substitute, bound?_compose]
    cases bound? first name with
    | some bound => rfl
    | none => rfl
  | .declared name arguments => by
    rw [substitute, substitute, substitute, substituteList_substituteList first second arguments]
  | .array element => by
    rw [substitute, substitute, substitute, substitute_substitute first second element]

theorem substituteList_substituteList (first second : List (String × TypeRef)) :
    ∀ types : List TypeRef, substituteList second (substituteList first types) =
      substituteList (compose first second) types
  | [] => rfl
  | type :: rest => by
    rw [substituteList, substituteList, substituteList, substitute_substitute first second type,
      substituteList_substituteList first second rest]

end

/-- Any number of substitutions one after the other are one along the composed bindings. -/
theorem foldl_substitute (chain : List (List (String × TypeRef))) (type : TypeRef) :
    chain.foldl (fun type bindings => type.substitute bindings) type =
      type.substitute (composeAll chain) := by
  induction chain generalizing type with
  | nil => exact (substitute_nil type).symm
  | cons first rest ih =>
    calc (first :: rest).foldl (fun type bindings => type.substitute bindings) type
        = (type.substitute first).substitute (composeAll rest) := ih (type.substitute first)
      _ = type.substitute (composeAll (first :: rest)) := substitute_substitute first _ type

mutual

theorem substitute_congr {first second : List (String × TypeRef)} :
    ∀ type : TypeRef,
      (∀ name, .plain name ∈ type.parts →
        (TypeRef.plain name).substitute first = (TypeRef.plain name).substitute second) →
      type.substitute first = type.substitute second
  | .plain name, agree => agree name (mem_parts_self _)
  | .declared name arguments, agree => by
    rw [substitute, substitute, substituteList_congr arguments fun other within =>
      agree other (List.mem_cons_of_mem _ within)]
  | .array element, agree => by
    rw [substitute, substitute, substitute_congr element fun other within =>
      agree other (List.mem_cons_of_mem _ within)]

theorem substituteList_congr {first second : List (String × TypeRef)} :
    ∀ types : List TypeRef,
      (∀ name, .plain name ∈ partsOfList types →
        (TypeRef.plain name).substitute first = (TypeRef.plain name).substitute second) →
      substituteList first types = substituteList second types
  | [], _ => rfl
  | type :: rest, agree => by
    rw [substituteList, substituteList,
      substitute_congr type fun name within => agree name (List.mem_append_left _ within),
      substituteList_congr rest fun name within => agree name (List.mem_append_right _ within)]

end

/-- The names without arguments that a type is written with. -/
def plainNames (type : TypeRef) : List String :=
  type.parts.filterMap fun part =>
    match part with
    | .plain name => some name
    | .declared _ _ | .array _ => none

theorem mem_plainNames {type : TypeRef} {name : String} :
    name ∈ type.plainNames ↔ .plain name ∈ type.parts := by
  unfold plainNames
  rw [List.mem_filterMap]
  constructor
  · rintro ⟨part, within, named⟩
    cases part with
    | plain other =>
      cases named
      exact within
    | declared other arguments => cases named
    | array element => cases named
  · intro within
    exact ⟨.plain name, within, rfl⟩

theorem plainNames_subset_of_mem_typeArguments {type argument : TypeRef}
    (given : argument ∈ type.typeArguments) : argument.plainNames ⊆ type.plainNames := by
  intro name within
  rw [mem_plainNames] at within ⊢
  cases type with
  | plain other => exact absurd given List.not_mem_nil
  | declared other arguments => exact List.mem_cons_of_mem _ (mem_partsOfList given within)
  | array element => exact absurd given List.not_mem_nil

/-- Whether bindings have nothing to put in the place of a whole type, which keeps its
head: it is not a variable that they bind. -/
def KeepsHead (bindings : List (String × TypeRef)) : TypeRef → Prop
  | .plain name => bound? bindings name = none
  | .declared _ _ | .array _ => True

section Head

variable {bindings : List (String × TypeRef)} {type : TypeRef}

theorem declaredName?_substitute (keeps : type.KeepsHead bindings) :
    (type.substitute bindings).declaredName? = type.declaredName? := by
  cases type with
  | plain name =>
    rw [substitute, show bound? bindings name = none from keeps]
    rfl
  | declared name arguments => rfl
  | array element => rfl

theorem typeArguments_substitute (keeps : type.KeepsHead bindings) :
    (type.substitute bindings).typeArguments =
      type.typeArguments.map (substitute bindings) := by
  cases type with
  | plain name =>
    rw [substitute, show bound? bindings name = none from keeps]
    rfl
  | declared name arguments => exact substituteList_eq_map bindings arguments
  | array element => rfl

end Head

end Stencil.TypeRef
