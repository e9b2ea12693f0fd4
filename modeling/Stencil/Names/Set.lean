/-!
# Sets of names

A set of names keeps its names in order and each of them once, so two sets with
the same names are equal (`ext_of_mem`).
-/

namespace Stencil

/-- A set of names. -/
structure NameSet where
  names : List String
  sorted : names.Pairwise (· < ·)
  deriving DecidableEq

namespace NameSet

/-- Puts a name in its place among ordered names, unless it is there. -/
def insertSorted (name : String) : List String → List String
  | [] => [name]
  | first :: rest =>
    if name < first then name :: first :: rest
    else if name = first then first :: rest
    else first :: insertSorted name rest

theorem mem_insertSorted {name other : String} {names : List String} :
    other ∈ insertSorted name names ↔ other = name ∨ other ∈ names := by
  induction names with
  | nil => simp [insertSorted]
  | cons first rest ih =>
    by_cases before : name < first
    · simp [insertSorted, before]
    · by_cases same : name = first
      · subst same
        simp [insertSorted]
      · simp only [insertSorted, before, same, if_false, List.mem_cons, ih]
        constructor
        · rintro (rfl | rfl | member) <;> simp_all
        · rintro (rfl | rfl | member) <;> simp_all

theorem sorted_insertSorted {name : String} {names : List String}
    (sorted : names.Pairwise (· < ·)) : (insertSorted name names).Pairwise (· < ·) := by
  induction names with
  | nil => simp [insertSorted]
  | cons first rest ih =>
    obtain ⟨below, restSorted⟩ := List.pairwise_cons.mp sorted
    by_cases before : name < first
    · rw [insertSorted, if_pos before]
      refine List.pairwise_cons.mpr ⟨fun other member => ?_, sorted⟩
      rcases List.mem_cons.mp member with rfl | member
      · exact before
      · exact String.lt_trans before (below other member)
    · by_cases same : name = first
      · simpa [insertSorted, before, same] using sorted
      · rw [insertSorted, if_neg before, if_neg same]
        refine List.pairwise_cons.mpr ⟨fun other member => ?_, ih restSorted⟩
        rcases mem_insertSorted.mp member with rfl | member
        · exact Std.lt_of_le_of_ne (String.not_lt.mp before) (Ne.symm same)
        · exact below other member

/-- The set without names. -/
def empty : NameSet := ⟨[], List.Pairwise.nil⟩

/-- Whether a name is in a set. -/
def contains (set : NameSet) (name : String) : Bool := set.names.contains name

/-- A set with a name in it. -/
def insert (set : NameSet) (name : String) : NameSet :=
  ⟨insertSorted name set.names, sorted_insertSorted set.sorted⟩

/-- The set of the names in a list. -/
def ofList (names : List String) : NameSet := names.foldl insert empty

instance : Membership String NameSet := ⟨fun set name => name ∈ set.names⟩

@[simp] theorem mem_names {set : NameSet} {name : String} : name ∈ set.names ↔ name ∈ set :=
  Iff.rfl

@[simp] theorem contains_iff {set : NameSet} {name : String} :
    set.contains name = true ↔ name ∈ set := by
  simp [contains, Membership.mem]

@[simp] theorem not_mem_empty {name : String} : ¬ name ∈ empty := by
  rw [← mem_names]
  exact List.not_mem_nil

@[simp] theorem mem_insert {set : NameSet} {name other : String} :
    other ∈ set.insert name ↔ other = name ∨ other ∈ set :=
  mem_insertSorted

theorem mem_ofList {names : List String} {name : String} : name ∈ ofList names ↔ name ∈ names := by
  suffices general : ∀ set : NameSet, name ∈ names.foldl insert set ↔ name ∈ set ∨ name ∈ names by
    simp [ofList, general]
  induction names with
  | nil => simp
  | cons first rest ih =>
    intro set
    rw [List.foldl_cons, ih, mem_insert, List.mem_cons]
    constructor
    · rintro ((rfl | member) | member) <;> simp_all
    · rintro (member | rfl | member) <;> simp_all

private theorem eq_of_sorted_of_mem : ∀ {first second : List String},
    first.Pairwise (· < ·) → second.Pairwise (· < ·) →
      (∀ name, name ∈ first ↔ name ∈ second) → first = second
  | [], [], _, _, _ => rfl
  | [], name :: _, _, _, same => by simpa using same name
  | name :: _, [], _, _, same => by simpa using same name
  | name :: rest, other :: others, sorted, otherSorted, same => by
    obtain ⟨below, restSorted⟩ := List.pairwise_cons.mp sorted
    obtain ⟨otherBelow, othersSorted⟩ := List.pairwise_cons.mp otherSorted
    have equal : name = other := by
      rcases List.mem_cons.mp ((same name).mp List.mem_cons_self) with equal | member
      · exact equal
      · rcases List.mem_cons.mp ((same other).mpr List.mem_cons_self) with equal | otherMember
        · exact equal.symm
        · exact absurd (otherBelow name member) (String.lt_asymm (below other otherMember))
    subst equal
    have restSame : ∀ candidate, candidate ∈ rest ↔ candidate ∈ others := by
      intro candidate
      constructor
      · intro member
        rcases List.mem_cons.mp ((same candidate).mp (List.mem_cons_of_mem _ member)) with
          rfl | found
        · exact absurd (below candidate member) (String.lt_irrefl candidate)
        · exact found
      · intro member
        rcases List.mem_cons.mp ((same candidate).mpr (List.mem_cons_of_mem _ member)) with
          rfl | found
        · exact absurd (otherBelow candidate member) (String.lt_irrefl candidate)
        · exact found
    rw [eq_of_sorted_of_mem restSorted othersSorted restSame]

/-- Sets with the same names are equal. -/
theorem ext_of_mem {first second : NameSet} (same : ∀ name, name ∈ first ↔ name ∈ second) :
    first = second := by
  cases first with
  | mk names sorted =>
    cases second with
    | mk others otherSorted =>
      have equal : names = others := eq_of_sorted_of_mem sorted otherSorted same
      subst equal
      rfl

end NameSet

end Stencil
