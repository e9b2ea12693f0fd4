import Mathlib.Tactic
import Stencil.TypeRef.Basic

/-!
# When types are shown alike

A type is named if its names do not contain the characters that types are put
together with.  Named types are shown alike exactly if they are equal, apart from
declared types that are applied to no arguments at all: these are normalized to
their plain names.  So the rendering of named types can be read in one way only, however
deep their arguments are nested and even if names are empty.

A type is well formed if, besides, what is applied to arguments is neither primitive
nor void.
-/

namespace Stencil

namespace TypeRef

/-- The characters that types are put together with. -/
def delimiters : List Char := ['<', '>', ',', '[', ']']

/-- Whether a name has no character that types are put together with. -/
def IsName (name : String) : Prop := ∀ c ∈ name.toList, c ∉ delimiters

mutual

/-- Whether all names in a type are names. -/
def Named : TypeRef → Prop
  | .plain name => IsName name
  | .declared name arguments => IsName name ∧ NamedList arguments
  | .array element => element.Named
termination_by structural type => type

def NamedList : List TypeRef → Prop
  | [] => True
  | type :: rest => type.Named ∧ NamedList rest
termination_by structural types => types

end

mutual

/-- Whether all names in a type are names, and no primitive type or void is
applied to arguments. -/
def WellFormed : TypeRef → Prop
  | .plain name => IsName name
  | .declared name arguments =>
    (IsName name ∧ (plain name).declaredName?.isSome) ∧ WellFormedList arguments
  | .array element => element.WellFormed
termination_by structural type => type

def WellFormedList : List TypeRef → Prop
  | [] => True
  | type :: rest => type.WellFormed ∧ WellFormedList rest
termination_by structural types => types

end

instance : DecidablePred IsName := fun name =>
  List.decidableBAll (fun c => c ∉ delimiters) name.toList

mutual

def decideWellFormed : (type : TypeRef) → Decidable type.WellFormed
  | .plain name => inferInstanceAs (Decidable (IsName name))
  | .declared _ arguments =>
    @instDecidableAnd _ _ inferInstance (decideWellFormedList arguments)
  | .array element => decideWellFormed element
termination_by structural type => type

def decideWellFormedList : (types : List TypeRef) → Decidable (WellFormedList types)
  | [] => .isTrue trivial
  | type :: rest => @instDecidableAnd _ _ (decideWellFormed type) (decideWellFormedList rest)
termination_by structural types => types

end

instance : DecidablePred WellFormed := decideWellFormed

mutual

/-- A type in which nothing is applied to no arguments. -/
def normal : TypeRef → TypeRef
  | .plain name => .plain name
  | .declared name [] => .plain name
  | .declared name (argument :: rest) => .declared name (argument.normal :: normalList rest)
  | .array element => .array element.normal
termination_by structural type => type

def normalList : List TypeRef → List TypeRef
  | [] => []
  | type :: rest => type.normal :: normalList rest
termination_by structural types => types

end

mutual

theorem WellFormed.named : ∀ {type : TypeRef}, type.WellFormed → type.Named
  | .plain _ => id
  | .declared _ _ => fun formed => ⟨formed.1.1, WellFormedList.named formed.2⟩
  | .array element => @WellFormed.named element

theorem WellFormedList.named : ∀ {types : List TypeRef}, WellFormedList types → NamedList types
  | [] => id
  | _ :: _ => fun formed => ⟨formed.1.named, WellFormedList.named formed.2⟩

end

theorem wellFormedList_iff {types : List TypeRef} :
    WellFormedList types ↔ ∀ type ∈ types, type.WellFormed := by
  induction types with
  | nil => simp [WellFormedList]
  | cons type rest ih => simp [WellFormedList, ih]

theorem normalList_eq_map (types : List TypeRef) : normalList types = types.map normal := by
  induction types with
  | nil => rfl
  | cons type rest ih => rw [normalList, ih, List.map_cons]

mutual

theorem display_normal : ∀ type : TypeRef, type.normal.display = type.display
  | .plain _ => rfl
  | .declared _ [] => rfl
  | .declared name (argument :: rest) => by
    rw [normal, display, display, display_normal argument, displayRest_normalList rest]
  | .array element => by rw [normal, display, display, display_normal element]

theorem displayRest_normalList : ∀ types : List TypeRef,
    displayRest (normalList types) = displayRest types
  | [] => rfl
  | type :: rest => by
    rw [normalList, displayRest, displayRest, display_normal type, displayRest_normalList rest]

end

/-- The part of a text before its first comma outside of angle brackets, when some
brackets are open. -/
def firstArgument : Nat → List Char → List Char
  | _, [] => []
  | 0, ',' :: _ => []
  | depth + 1, ',' :: rest => ',' :: firstArgument (depth + 1) rest
  | depth, '<' :: rest => '<' :: firstArgument (depth + 1) rest
  | depth, '>' :: rest => '>' :: firstArgument (depth - 1) rest
  | depth, c :: rest => c :: firstArgument depth rest

theorem firstArgument_cons {c : Char} (inside : c ≠ ',' ∧ c ≠ '<' ∧ c ≠ '>') (depth : Nat)
    (rest : List Char) : firstArgument depth (c :: rest) = c :: firstArgument depth rest := by
  rw [firstArgument.eq_def]
  split <;> simp_all

theorem firstArgument_name {name : List Char} (plain : ∀ c ∈ name, c ∉ delimiters) (depth : Nat)
    (rest : List Char) : firstArgument depth (name ++ rest) = name ++ firstArgument depth rest := by
  induction name with
  | nil => rfl
  | cons c others ih =>
    have inside : c ≠ ',' ∧ c ≠ '<' ∧ c ≠ '>' := by
      have undelimited := plain c List.mem_cons_self
      simp only [delimiters, List.mem_cons, List.not_mem_nil, or_false, not_or] at undelimited
      exact ⟨undelimited.2.2.1, undelimited.1, undelimited.2.1⟩
    rw [List.cons_append, firstArgument_cons inside,
      ih fun other member => plain other (List.mem_cons_of_mem _ member)]
    rfl

mutual

/-- A type is passed as a whole, as its commas lie within its own brackets. -/
theorem firstArgument_display : ∀ (type : TypeRef), type.Named → ∀ depth rest,
    firstArgument depth (type.display ++ rest) = type.display ++ firstArgument depth rest
  | .plain name, named, depth, rest => firstArgument_name named depth rest
  | .declared name [], named, depth, rest => firstArgument_name named.1 depth rest
  | .declared name (argument :: others), named, depth, rest => by
    have open_bracket : ∀ after, firstArgument depth ('<' :: after) =
        '<' :: firstArgument (depth + 1) after := by
      intro after
      cases depth <;> rfl
    rw [display]
    simp only [List.append_assoc, List.cons_append, List.nil_append]
    rw [firstArgument_name named.1, open_bracket, firstArgument_display argument named.2.1,
      firstArgument_displayRest others named.2.2]
    rfl
  | .array element, named, depth, rest => by
    rw [display, List.append_assoc, firstArgument_display element named, List.cons_append,
      List.cons_append, firstArgument_cons (by decide), firstArgument_cons (by decide),
      List.append_assoc]
    rfl

theorem firstArgument_displayRest : ∀ (types : List TypeRef), NamedList types →
    ∀ depth rest, firstArgument (depth + 1) (displayRest types ++ rest) =
      displayRest types ++ firstArgument (depth + 1) rest
  | [], _, _, _ => rfl
  | type :: others, named, depth, rest => by
    have comma : ∀ after, firstArgument (depth + 1) (',' :: after) =
        ',' :: firstArgument (depth + 1) after := fun _ => rfl
    rw [displayRest]
    simp only [List.append_assoc, List.cons_append]
    rw [comma, firstArgument_display type named.1, firstArgument_displayRest others named.2]

end

theorem firstArgument_display_displayRest {type : TypeRef} (named : type.Named)
    (others : List TypeRef) :
    firstArgument 0 (type.display ++ displayRest others) = type.display := by
  rw [firstArgument_display type named]
  cases others with
  | nil => exact List.append_nil _
  | cons other rest => exact List.append_nil _

theorem not_mem_name {name : String} (plain : IsName name) {c : Char}
    (delimiter : c ∈ delimiters) : c ∉ name.toList := fun member => plain c member delimiter

theorem name_ne_applied {name other : String} (plain : IsName name) (argument : TypeRef)
    (rest : List TypeRef) : name.toList ≠ (declared other (argument :: rest)).display := by
  intro same
  apply not_mem_name plain (show '<' ∈ delimiters by decide)
  rw [same, display]
  simp

theorem name_ne_array {name : String} (plain : IsName name) (element : TypeRef) :
    name.toList ≠ (array element).display := by
  intro same
  apply not_mem_name plain (show '[' ∈ delimiters by decide)
  rw [same, display]
  simp

/-- A declared type with arguments is not shown like an array: they end otherwise. -/
theorem applied_ne_array (name : String) (argument : TypeRef) (rest : List TypeRef)
    (element : TypeRef) :
    (declared name (argument :: rest)).display ≠ (array element).display := by
  intro same
  have bracket : (declared name (argument :: rest)).display.getLast? = some '>' := by
    rw [display, List.getLast?_append]
    rfl
  rw [same, display, List.getLast?_append] at bracket
  cases bracket

/-- Declared types with arguments are shown alike only if their names are equal and
so is how their arguments are shown. -/
theorem applied_inj {name other : String} {argument second : TypeRef}
    {rest others : List TypeRef} (plain : IsName name) (otherPlain : IsName other)
    (named : argument.Named) (otherNamed : second.Named)
    (same : (declared name (argument :: rest)).display =
      (declared other (second :: others)).display) :
    name = other ∧ argument.display = second.display ∧ displayRest rest = displayRest others := by
  simp only [display, List.append_assoc, List.cons_append] at same
  have split : name.toList = other.toList ∧ argument.display ++ (displayRest rest ++ ['>']) =
      second.display ++ (displayRest others ++ ['>']) := by
    rcases List.append_eq_append_iff.mp same with ⟨middle, equal, tail⟩ | ⟨middle, equal, tail⟩
    · cases middle with
      | nil => exact ⟨by simpa using equal.symm, by simpa using tail⟩
      | cons c more =>
        obtain ⟨rfl, -⟩ := List.cons.inj tail
        exact absurd (equal ▸ List.mem_append_right _ List.mem_cons_self)
          (not_mem_name otherPlain (by decide))
    · cases middle with
      | nil => exact ⟨by simpa using equal, by simpa [eq_comm] using tail⟩
      | cons c more =>
        obtain ⟨rfl, -⟩ := List.cons.inj tail
        exact absurd (equal ▸ List.mem_append_right _ List.mem_cons_self)
          (not_mem_name plain (by decide))
  obtain ⟨names, arguments⟩ := split
  rw [← List.append_assoc, ← List.append_assoc, List.append_cancel_right_eq] at arguments
  have first := congrArg (firstArgument 0) arguments
  rw [firstArgument_display_displayRest named,
    firstArgument_display_displayRest otherNamed] at first
  rw [first, List.append_cancel_left_eq] at arguments
  exact ⟨String.toList_injective names, first, arguments⟩

mutual

theorem normal_eq_of_display_eq : ∀ (first second : TypeRef), first.Named →
    second.Named → first.display = second.display → first.normal = second.normal
  | .plain name, .plain other, _, _, same => congrArg plain (String.toList_injective same)
  | .plain name, .declared other [], _, _, same => congrArg plain (String.toList_injective same)
  | .plain name, .declared other (argument :: rest), named, _, same =>
    absurd same (name_ne_applied named argument rest)
  | .plain name, .array element, named, _, same => absurd same (name_ne_array named element)
  | .declared name [], .plain other, _, _, same => congrArg plain (String.toList_injective same)
  | .declared name [], .declared other [], _, _, same =>
    congrArg plain (String.toList_injective same)
  | .declared name [], .declared other (argument :: rest), named, _, same =>
    absurd same (name_ne_applied named.1 argument rest)
  | .declared name [], .array element, named, _, same =>
    absurd same (name_ne_array named.1 element)
  | .declared name (argument :: rest), .plain other, _, named, same =>
    absurd same.symm (name_ne_applied named argument rest)
  | .declared name (argument :: rest), .declared other [], _, named, same =>
    absurd same.symm (name_ne_applied named.1 argument rest)
  | .declared name (argument :: rest), .declared other (second :: others), named,
      otherNamed, same => by
    obtain ⟨names, arguments, more⟩ := applied_inj named.1 otherNamed.1 named.2.1
      otherNamed.2.1 same
    rw [normal, normal, names,
      normal_eq_of_display_eq argument second named.2.1 otherNamed.2.1 arguments,
      normalList_eq_of_displayRest_eq rest others named.2.2 otherNamed.2.2 more]
  | .declared name (argument :: rest), .array element, _, _, same =>
    absurd same (applied_ne_array name argument rest element)
  | .array element, .plain other, _, named, same =>
    absurd same.symm (name_ne_array named element)
  | .array element, .declared other [], _, named, same =>
    absurd same.symm (name_ne_array named.1 element)
  | .array element, .declared other (argument :: rest), _, _, same =>
    absurd same.symm (applied_ne_array other argument rest element)
  | .array element, .array other, named, otherNamed, same => by
    rw [display, display, List.append_cancel_right_eq] at same
    rw [normal, normal, normal_eq_of_display_eq element other named otherNamed same]

theorem normalList_eq_of_displayRest_eq : ∀ (first second : List TypeRef),
    NamedList first → NamedList second → displayRest first = displayRest second →
      normalList first = normalList second
  | [], [], _, _, _ => rfl
  | [], _ :: _, _, _, same => by cases same
  | _ :: _, [], _, _, same => by cases same
  | type :: rest, other :: others, named, otherNamed, same => by
    rw [displayRest, displayRest] at same
    have arguments : type.display ++ displayRest rest = other.display ++ displayRest others :=
      (List.cons.inj same).2
    have first := congrArg (firstArgument 0) arguments
    rw [firstArgument_display_displayRest named.1,
      firstArgument_display_displayRest otherNamed.1] at first
    rw [first, List.append_cancel_left_eq] at arguments
    rw [normalList, normalList, normal_eq_of_display_eq type other named.1 otherNamed.1 first,
      normalList_eq_of_displayRest_eq rest others named.2 otherNamed.2 arguments]

end

/-- Being shown alike is being equal in normal form. -/
theorem display_eq_iff_normal_eq {first second : TypeRef} (named : first.Named)
    (otherNamed : second.Named) :
    first.display = second.display ↔ first.normal = second.normal := by
  constructor
  · exact normal_eq_of_display_eq first second named otherNamed
  · intro same
    rw [← display_normal first, same, display_normal second]

/-- Types with names are the same type exactly if they are equal once each declared type
without arguments, at any depth, is replaced by its plain name. -/
theorem sameType_iff_respelled (first second : TypeRef) (named : first.Named)
    (otherNamed : second.Named) :
    first.sameType second = true ↔ first.normal = second.normal := by
  rw [sameType_iff]
  exact display_eq_iff_normal_eq named otherNamed

/-- An array of a declared type with the empty name, whose arguments are an array and a
type without arguments, in the two spellings of the latter and of the empty name. -/
theorem sameType_iff_respelled_emptyNames :
    let first := array (declared "" [array (declared "" []), declared "Map" []])
    let second := array (declared "" [array (plain ""), plain "Map"])
    first.Named ∧ second.Named ∧ first ≠ second ∧
      (first.sameType second = true ↔ first.normal = second.normal) ∧
      first.normal = second.normal := by
  have empty : IsName "" := by decide
  have map : IsName "Map" := by decide
  refine ⟨⟨empty, ⟨empty, trivial⟩, ⟨map, trivial⟩, trivial⟩, ⟨empty, empty, map, trivial⟩,
    by decide, ?_, rfl⟩
  exact sameType_iff_respelled _ _ ⟨empty, ⟨empty, trivial⟩, ⟨map, trivial⟩, trivial⟩
    ⟨empty, empty, map, trivial⟩

/-- A name with brackets of its own can be taken for a type with arguments. -/
example : (plain "List<E>").sameType (declared "List" [plain "E"]) = true ∧
    (plain "List<E>").normal ≠ (declared "List" [plain "E"]).normal := by
  decide

end TypeRef

end Stencil
