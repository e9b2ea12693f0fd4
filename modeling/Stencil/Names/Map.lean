import Stencil.Association

/-!
# Maps from names

A map keeps its names in order and gives every name at most one value, so two
maps that give the same values are equal.
-/

namespace Stencil

/-- A map from names to values. -/
structure NameMap (α : Type) where
  entries : List (String × α)
  sorted : entries.Pairwise fun first second => first.1 < second.1

namespace NameMap

variable {α β : Type}

instance [DecidableEq α] : DecidableEq (NameMap α) := fun first second =>
  if same : first.entries = second.entries then
    isTrue (by cases first; cases second; cases same; rfl)
  else
    isFalse fun equal => same (by rw [equal])

/-- Puts an entry in its place among ordered ones, replacing the one with its
name. -/
def insertSorted (name : String) (value : α) : List (String × α) → List (String × α)
  | [] => [(name, value)]
  | first :: rest =>
    if name < first.1 then (name, value) :: first :: rest
    else if name = first.1 then (name, value) :: rest
    else first :: insertSorted name value rest

theorem fst_mem_of_mem_insertSorted {name : String} {value : α} {entries : List (String × α)}
    {entry : String × α} (member : entry ∈ insertSorted name value entries) :
    entry.1 = name ∨ entry ∈ entries := by
  induction entries with
  | nil => simp_all [insertSorted]
  | cons first rest ih =>
    unfold insertSorted at member
    split at member
    · rcases List.mem_cons.mp member with rfl | member
      · exact .inl rfl
      · exact .inr member
    · split at member
      · rcases List.mem_cons.mp member with rfl | member
        · exact .inl rfl
        · exact .inr (List.mem_cons_of_mem _ member)
      · rcases List.mem_cons.mp member with rfl | member
        · exact .inr List.mem_cons_self
        · rcases ih member with named | member
          · exact .inl named
          · exact .inr (List.mem_cons_of_mem _ member)

theorem sorted_insertSorted {name : String} {value : α} {entries : List (String × α)}
    (sorted : entries.Pairwise fun first second => first.1 < second.1) :
    (insertSorted name value entries).Pairwise fun first second => first.1 < second.1 := by
  induction entries with
  | nil => simp [insertSorted]
  | cons first rest ih =>
    obtain ⟨below, restSorted⟩ := List.pairwise_cons.mp sorted
    by_cases before : name < first.1
    · rw [insertSorted, if_pos before]
      refine List.pairwise_cons.mpr ⟨fun other member => ?_, sorted⟩
      rcases List.mem_cons.mp member with rfl | member
      · exact before
      · exact String.lt_trans before (below other member)
    · by_cases same : name = first.1
      · rw [insertSorted, if_neg before, if_pos same]
        refine List.pairwise_cons.mpr ⟨fun other member => ?_, restSorted⟩
        show name < other.1
        rw [same]
        exact below other member
      · rw [insertSorted, if_neg before, if_neg same]
        refine List.pairwise_cons.mpr ⟨fun other member => ?_, ih restSorted⟩
        rcases fst_mem_of_mem_insertSorted member with named | member
        · rw [named]
          exact Std.lt_of_le_of_ne (String.not_lt.mp before) (Ne.symm same)
        · exact below other member

/-- The map without entries. -/
def empty : NameMap α := ⟨[], List.Pairwise.nil⟩

/-- The value of a name. -/
def get? (map : NameMap α) (name : String) : Option α := map.entries.lookup name

/-- Whether a name has a value. -/
def contains (map : NameMap α) (name : String) : Bool := (map.get? name).isSome

/-- A map with a value for a name. -/
def insert (map : NameMap α) (name : String) (value : α) : NameMap α :=
  ⟨insertSorted name value map.entries, sorted_insertSorted map.sorted⟩

/-- The map of the pairs in a list; of pairs with the same name the last one
counts. -/
def ofList (pairs : List (String × α)) : NameMap α :=
  pairs.foldl (fun map pair => map.insert pair.1 pair.2) empty

def names (map : NameMap α) : List String := map.entries.map (·.1)

/-- The values, in the order of their names. -/
def values (map : NameMap α) : List α := map.entries.map (·.2)

@[simp] theorem get?_empty (name : String) : (empty : NameMap α).get? name = none := rfl

theorem lookup_insertSorted (name other : String) (value : α) (entries : List (String × α)) :
    (insertSorted name value entries).lookup other =
      if other = name then some value else entries.lookup other := by
  induction entries with
  | nil => simp [insertSorted, lookup_cons_eq_ite]
  | cons first rest ih =>
    by_cases before : name < first.1
    · rw [insertSorted, if_pos before, lookup_cons_eq_ite]
    · by_cases found : name = first.1
      · rw [insertSorted, if_neg before, if_pos found, lookup_cons_eq_ite, lookup_cons_eq_ite]
        by_cases same : other = name
        · rw [if_pos same, if_pos same]
        · rw [if_neg same, if_neg same, if_neg (found ▸ same)]
      · rw [insertSorted, if_neg before, if_neg found, lookup_cons_eq_ite, lookup_cons_eq_ite, ih]
        by_cases same : other = first.1
        · rw [if_pos same, if_neg (fun equal => found (equal.symm.trans same)), if_pos same]
        · rw [if_neg same, if_neg same]

/-- A map gives the new value to the name inserted, and the old ones to all
others. -/
@[simp] theorem get?_insert (map : NameMap α) (name other : String) (value : α) :
    (map.insert name value).get? other = if other = name then some value else map.get? other :=
  lookup_insertSorted name other value map.entries

end NameMap

end Stencil
