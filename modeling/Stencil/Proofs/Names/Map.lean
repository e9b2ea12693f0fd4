import Mathlib.Tactic
import Stencil.Names.Map

/-!
# Maps from names, seen through their look-ups

The entries of a map are the pairs that look-up finds, so two maps with the
same look-ups are equal.  A map made from a list of pairs gives a name what the
last pair with this name says.
-/

namespace Stencil.NameMap

variable {α : Type}

theorem lookup_eq_some_iff_mem {pairs : List (String × α)}
    (distinct : (pairs.map Prod.fst).Nodup) {name : String} {value : α} :
    pairs.lookup name = some value ↔ (name, value) ∈ pairs := by
  induction pairs with
  | nil => simp
  | cons first rest ih =>
    rw [List.map_cons, List.nodup_cons] at distinct
    rw [lookup_cons_eq_ite, List.mem_cons]
    by_cases same : name = first.1
    · rw [if_pos same]
      constructor
      · intro equal
        left
        rw [same, ← Option.some.inj equal]
      · rintro (rfl | found)
        · rfl
        · exact absurd (same ▸ List.mem_map_of_mem found) distinct.1
    · rw [if_neg same, ih distinct.2]
      constructor
      · exact .inr
      · rintro (rfl | found)
        · exact absurd rfl same
        · exact found

theorem distinct_names (map : NameMap α) : (map.entries.map Prod.fst).Nodup := by
  rw [List.Nodup, List.pairwise_map]
  apply map.sorted.imp
  intro first second below same
  rw [same] at below
  exact String.lt_irrefl _ below

theorem mem_entries_iff {map : NameMap α} {name : String} {value : α} :
    (name, value) ∈ map.entries ↔ map.get? name = some value :=
  (lookup_eq_some_iff_mem map.distinct_names).symm

theorem contains_eq_true_iff {map : NameMap α} {name : String} :
    map.contains name = true ↔ ∃ value, map.get? name = some value :=
  Option.isSome_iff_exists

private theorem eq_of_sorted_of_mem : ∀ {first second : List (String × α)},
    (first.Pairwise fun a b => a.1 < b.1) → (second.Pairwise fun a b => a.1 < b.1) →
      (∀ entry, entry ∈ first ↔ entry ∈ second) → first = second
  | [], [], _, _, _ => rfl
  | [], entry :: _, _, _, same => by simpa using same entry
  | entry :: _, [], _, _, same => by simpa using same entry
  | entry :: rest, other :: others, sorted, otherSorted, same => by
    obtain ⟨below, restSorted⟩ := List.pairwise_cons.mp sorted
    obtain ⟨otherBelow, othersSorted⟩ := List.pairwise_cons.mp otherSorted
    have equal : entry = other := by
      rcases List.mem_cons.mp ((same entry).mp List.mem_cons_self) with equal | member
      · exact equal
      · rcases List.mem_cons.mp ((same other).mpr List.mem_cons_self) with equal | otherMember
        · exact equal.symm
        · exact absurd (otherBelow entry member) (String.lt_asymm (below other otherMember))
    subst equal
    have restSame : ∀ candidate, candidate ∈ rest ↔ candidate ∈ others := by
      intro candidate
      have fresh : candidate = entry → candidate ∉ rest ∧ candidate ∉ others := by
        rintro rfl
        exact ⟨fun member => String.lt_irrefl _ (below candidate member),
          fun member => String.lt_irrefl _ (otherBelow candidate member)⟩
      by_cases known : candidate = entry
      · simp [fresh known]
      · simpa [known] using same candidate
    rw [eq_of_sorted_of_mem restSorted othersSorted restSame]

theorem ext_get? {first second : NameMap α}
    (same : ∀ name, first.get? name = second.get? name) : first = second := by
  have entries : first.entries = second.entries := by
    apply eq_of_sorted_of_mem first.sorted second.sorted
    rintro ⟨name, value⟩
    rw [mem_entries_iff, mem_entries_iff, same]
  cases first
  cases second
  cases entries
  rfl

theorem get?_foldl_insert (pairs : List (String × α)) (map : NameMap α) (name : String) :
    (pairs.foldl (fun map pair => map.insert pair.1 pair.2) map).get? name =
      (pairs.reverse.lookup name).or (map.get? name) := by
  induction pairs generalizing map with
  | nil => rfl
  | cons pair rest ih =>
    rw [List.foldl_cons, ih, get?_insert, List.reverse_cons, List.lookup_append,
      lookup_cons_eq_ite, List.lookup_nil, Option.or_assoc]
    by_cases same : name = pair.1
    · rw [if_pos same, if_pos same, Option.some_or]
    · rw [if_neg same, if_neg same, Option.none_or]

/-- The last pair with a name counts. -/
theorem get?_ofList (pairs : List (String × α)) (name : String) :
    (ofList pairs).get? name = pairs.reverse.lookup name := by
  rw [ofList, get?_foldl_insert, get?_empty, Option.or_none]

/-- Pairs that a function makes from names give every one of these names what the
function does. -/
theorem get?_ofList_map (value : String → α) (names : List String) (name : String) :
    (ofList (names.map fun other => (other, value other))).get? name =
      if name ∈ names then some (value name) else none := by
  rw [get?_ofList, ← List.map_reverse]
  have member : name ∈ names ↔ name ∈ names.reverse := List.mem_reverse.symm
  rw [if_congr member rfl rfl]
  generalize names.reverse = back
  induction back with
  | nil => rfl
  | cons first rest ih =>
    rw [List.map_cons, lookup_cons_eq_ite, ih]
    by_cases same : name = first
    · simp [same]
    · simp [same]

theorem ofList_entries (map : NameMap α) : ofList map.entries = map := by
  apply ext_get?
  intro name
  apply Option.ext
  intro value
  have distinct : (map.entries.reverse.map Prod.fst).Nodup := by
    rw [List.map_reverse, List.nodup_reverse]
    exact map.distinct_names
  rw [get?_ofList, lookup_eq_some_iff_mem distinct, List.mem_reverse, mem_entries_iff]

end Stencil.NameMap
