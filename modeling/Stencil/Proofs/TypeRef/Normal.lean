import Stencil.Proofs.TypeRef.Display

/-!
# What can be read off how types are shown

What a well-formed type refers to and which arguments it has depends on its normal form
alone.  Substitution and erasure keep types well formed, and the result of a substitution
is shown alike if the types that it puts in are.
-/

namespace Stencil.TypeRef

theorem declaredName?_normal {type : TypeRef} (formed : type.WellFormed) :
    type.normal.declaredName? = type.declaredName? := by
  cases type with
  | plain name => rfl
  | declared name arguments =>
    cases arguments with
    | nil =>
      obtain ⟨other, found⟩ := Option.isSome_iff_exists.mp formed.1.2
      show (plain name).declaredName? = some name
      simp only [declaredName?] at found ⊢
      split_ifs at found ⊢
      rfl
    | cons argument rest => rfl
  | array element => rfl

theorem typeArguments_normal (type : TypeRef) :
    type.normal.typeArguments = type.typeArguments.map normal := by
  cases type with
  | plain name => rfl
  | declared name arguments =>
    cases arguments with
    | nil => rfl
    | cons argument rest =>
      show argument.normal :: normalList rest = argument.normal :: rest.map normal
      rw [normalList_eq_map]
  | array element => rfl

theorem map_display_bound? (parameters : List String) (arguments : List TypeRef) (name : String) :
    (bound? (parameters.zip arguments) name).map display =
      ((parameters.zip (arguments.map display)).find? (·.1 = name)).map (·.2) := by
  unfold bound?
  rw [List.zip_map_right, List.find?_map, Option.map_map, Option.map_map]
  rfl

mutual

/-- How the result of a substitution is shown depends on how the types are shown that it
puts in. -/
theorem display_substitute {first second : List (String × TypeRef)}
    (alike : ∀ name, (bound? first name).map display = (bound? second name).map display) :
    ∀ type : TypeRef, (type.substitute first).display = (type.substitute second).display
  | .plain name => by
    have values := alike name
    rw [substitute, substitute]
    cases found : bound? first name with
    | none =>
      rw [found, Option.map_none, eq_comm, Option.map_eq_none_iff] at values
      rw [values]
    | some value =>
      rw [found, Option.map_some, eq_comm, Option.map_eq_some_iff] at values
      obtain ⟨other, otherFound, shown⟩ := values
      rw [otherFound]
      exact shown.symm
  | .declared name [] => rfl
  | .declared name (argument :: rest) => by
    rw [substitute, substitute, substituteList, substituteList, display, display,
      display_substitute alike argument, displayRest_substituteList alike rest]
  | .array element => by
    rw [substitute, substitute, display, display, display_substitute alike element]

theorem displayRest_substituteList {first second : List (String × TypeRef)}
    (alike : ∀ name, (bound? first name).map display = (bound? second name).map display) :
    ∀ types : List TypeRef,
      displayRest (substituteList first types) = displayRest (substituteList second types)
  | [] => rfl
  | type :: rest => by
    rw [substituteList, substituteList, displayRest, displayRest,
      display_substitute alike type, displayRest_substituteList alike rest]

end

theorem wellFormed_erasure : ∀ type : TypeRef, type.WellFormed → type.erasure.WellFormed
  | .plain _, formed => formed
  | .declared _ _, formed => formed.1.1
  | .array element, formed => wellFormed_erasure element formed

theorem mem_of_bound? {bindings : List (String × TypeRef)} {name : String} {value : TypeRef}
    (found : bound? bindings name = some value) : value ∈ bindings.map Prod.snd := by
  unfold bound? at found
  obtain ⟨binding, member, rfl⟩ := Option.map_eq_some_iff.mp found
  exact List.mem_map_of_mem (List.mem_of_find?_eq_some member)

theorem mem_of_mem_values {parameters : List String} {arguments : List TypeRef} {value : TypeRef}
    (given : value ∈ (parameters.zip arguments).map Prod.snd) : value ∈ arguments := by
  obtain ⟨binding, bound, rfl⟩ := List.mem_map.mp given
  exact (List.of_mem_zip bound).2

theorem bound?_zip_eq_none {parameters : List String} {name : String} (other : name ∉ parameters)
    (arguments : List TypeRef) : bound? (parameters.zip arguments) name = none := by
  rw [bound?, Option.map_eq_none_iff, List.find?_eq_none]
  intro binding bound same
  rw [decide_eq_true_iff] at same
  exact other (same ▸ (List.of_mem_zip bound).1)

mutual

theorem wellFormed_substitute {bindings : List (String × TypeRef)}
    (values : ∀ value ∈ bindings.map Prod.snd, value.WellFormed) :
    ∀ type : TypeRef, type.WellFormed → (type.substitute bindings).WellFormed
  | .plain name, formed => by
    rw [substitute]
    cases found : bound? bindings name with
    | none => exact formed
    | some value => exact values value (mem_of_bound? found)
  | .declared name arguments, formed =>
    ⟨formed.1, wellFormedList_substituteList values arguments formed.2⟩
  | .array element, formed => wellFormed_substitute values element formed

theorem wellFormedList_substituteList {bindings : List (String × TypeRef)}
    (values : ∀ value ∈ bindings.map Prod.snd, value.WellFormed) :
    ∀ types : List TypeRef, WellFormedList types →
      WellFormedList (substituteList bindings types)
  | [], formed => formed
  | type :: rest, formed =>
    ⟨wellFormed_substitute values type formed.1,
      wellFormedList_substituteList values rest formed.2⟩

end

theorem wellFormed_typeArguments {type : TypeRef} (formed : type.WellFormed) :
    ∀ argument ∈ type.typeArguments, argument.WellFormed := by
  cases type with
  | plain name =>
    intro argument absent
    exact absurd absent List.not_mem_nil
  | declared name arguments => exact wellFormedList_iff.mp formed.2
  | array element =>
    intro argument absent
    exact absurd absent List.not_mem_nil

end Stencil.TypeRef
