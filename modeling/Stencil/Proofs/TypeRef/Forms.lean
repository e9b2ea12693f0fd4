import Stencil.Proofs.Json.Inversion
import Stencil.TypeRef.Json

/-!
# The type that an object stands for

Nothing in an object names the form of the type that is meant, and an object is
of no form to which it gives a field repeatedly.  What counts is therefore what
the object gives to each of the three keys, in whichever order it does.
-/

namespace Stencil.TypeRef

open Json

/-- What the values of a key can be taken for in some respect. -/
def given {α : Type} (levels : Nat) (key : String) (use : Forms → α)
    (entries : List (Quoted × Tree)) : List α :=
  entries.filterMap fun entry =>
    match entry.1.read, entry.2.value levels with
    | .ok name, .ok value => if name = key then some (use (forms value)) else none
    | _, _ => none

/-- What is in a list if it is only one thing. -/
def sole? {α : Type} : List (Option α) → Option α
  | [found] => found
  | _ => none

/-- The arguments of a declared type; there are none if none are given. -/
def argumentsFrom? : List (Option (List TypeRef)) → Option (List TypeRef)
  | [] => some []
  | found => sole? found

/-- The type that is given by names, arguments and elements. -/
def typeFrom? (names : List (Option String)) (arguments : List (Option (List TypeRef)))
    (elements : List (Option TypeRef)) : Option TypeRef :=
  ((sole? names).bind fun name => (argumentsFrom? arguments).map (declared name)) <|>
    (sole? elements).map array

section Objects

variable {levels : Nat} {entries others : List (Quoted × Tree)} {fields : List (String × Value)}

theorem given_append {α : Type} (key : String) (use : Forms → α)
    (entries others : List (Quoted × Tree)) :
    given levels key use (entries ++ others) =
      given levels key use entries ++ given levels key use others :=
  List.filterMap_append

theorem given_perm {α : Type} (order : entries.Perm others) (key : String) (use : Forms → α) :
    (given levels key use entries).Perm (given levels key use others) :=
  order.filterMap _

theorem given_eq_nil {α : Type} {key : String} {use : Forms → α}
    (absent : ∀ entry ∈ entries, entry.1.read ≠ .ok key) : given levels key use entries = [] := by
  apply List.filterMap_eq_nil_iff.mpr
  intro entry member
  cases keyRead : entry.1.read with
  | error fault => rfl
  | ok name =>
    cases entry.2.value levels with
    | error fault => rfl
    | ok value =>
      apply if_neg
      intro same
      exact absent entry member (same ▸ keyRead)

theorem sole?_perm {α : Type} {found others : List (Option α)} (order : found.Perm others) :
    sole? found = sole? others := by
  match found, others, order.length_eq with
  | [], [], _ => rfl
  | [first], [other], _ => rw [List.singleton_perm_singleton.mp order]
  | _ :: _ :: _, _ :: _ :: _, _ => rfl

theorem argumentsFrom?_perm {found others : List (Option (List TypeRef))}
    (order : found.Perm others) : argumentsFrom? found = argumentsFrom? others := by
  match found, others, order.length_eq with
  | [], [], _ => rfl
  | _ :: _, _ :: _, _ => exact sole?_perm order

private theorem filter_formsOfFields {α : Type} (key : String) (use : Forms → α)
    (read : valuesOfFields levels entries = .ok fields) :
    ((formsOfFields fields).filter (·.1 = key)).map (fun field => use field.2) =
      given levels key use entries := by
  induction entries generalizing fields with
  | nil =>
    cases read
    rfl
  | cons entry rest ih =>
    obtain ⟨name, keyRead, read⟩ := bind_eq_ok.mp read
    obtain ⟨value, valueRead, read⟩ := bind_eq_ok.mp read
    obtain ⟨later, restRead, read⟩ := bind_eq_ok.mp read
    cases read
    have others := ih restRead
    by_cases same : name = key
    · simp only [formsOfFields, given, List.filterMap_cons, keyRead, valueRead, same, if_true,
        List.filter_cons, decide_true, List.map_cons] at others ⊢
      rw [others]
    · simp only [formsOfFields, given, List.filterMap_cons, keyRead, valueRead, same, if_false,
        List.filter_cons, decide_false, Bool.false_eq_true] at others ⊢
      rw [others]

private theorem arrayOfFields?_eq (found : List (String × Forms)) :
    arrayOfFields? found =
      (sole? ((found.filter (·.1 = "array")).map fun field => field.2.type?)).map array := by
  unfold arrayOfFields? onlyField?
  generalize found.filter (·.1 = "array") = elements
  match elements with
  | [] | _ :: _ :: _ => rfl
  | [(_, value)] => cases type : value.type? <;> simp [sole?, type]

private theorem declaredOfFields?_eq (found : List (String × Forms)) :
    declaredOfFields? found =
      (sole? ((found.filter (·.1 = "declared")).map fun field => field.2.text?)).bind fun name =>
        (argumentsFrom? ((found.filter (·.1 = "args")).map fun field => field.2.types?)).map
          (declared name) := by
  unfold declaredOfFields? onlyField?
  generalize found.filter (·.1 = "declared") = names, found.filter (·.1 = "args") = arguments
  match names with
  | [] | _ :: _ :: _ => rfl
  | [(_, name)] =>
    cases text : name.text? with
    | none => simp [sole?, text]
    | some name =>
      match arguments with
      | [] | _ :: _ :: _ => simp [sole?, argumentsFrom?, text]
      | [(_, value)] => cases types : value.types? <;> simp [sole?, argumentsFrom?, text, types]

/-- What an object stands for is settled by what it gives to the keys of the forms. -/
theorem type?_object (read : valuesOfFields levels entries = .ok fields) :
    (forms (.object fields)).type? =
      typeFrom? (given levels "declared" Forms.text? entries)
        (given levels "args" Forms.types? entries) (given levels "array" Forms.type? entries) := by
  show (declaredOfFields? (formsOfFields fields) <|> arrayOfFields? (formsOfFields fields)) = _
  rw [declaredOfFields?_eq, arrayOfFields?_eq, filter_formsOfFields _ _ read,
    filter_formsOfFields _ _ read, filter_formsOfFields _ _ read, typeFrom?]

end Objects

end Stencil.TypeRef
