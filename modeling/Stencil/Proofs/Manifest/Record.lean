import Stencil.Manifest.Basic
import Stencil.Proofs.Names.Map
import Stencil.Proofs.Round

/-!
# The record of a round

A manifest that is made from a round has an entry for every output that was committed,
and no others.
-/

namespace Stencil

namespace Manifest

variable {graph : Graph} {folder : Path} {committed : NameMap DiskOutput}

theorem get?_foldl_of_not_mem {generated : List GeneratedUnit} {name : QualifiedName}
    (absent : name ∉ generated.map GeneratedUnit.qualifiedName) (manifest : Manifest) :
    (generated.foldl (addGenerated graph folder committed) manifest).outputs.get? name =
      manifest.outputs.get? name := by
  induction generated generalizing manifest with
  | nil => rfl
  | cons first rest ih =>
    rw [List.map_cons, List.mem_cons, not_or] at absent
    rw [List.foldl_cons, ih absent.2]
    unfold addGenerated
    cases committed.get? first.qualifiedName with
    | none => rfl
    | some output => exact (NameMap.get?_insert _ _ _ _).trans (if_neg absent.1)

/-- A manifest has the record of every output that a round committed. -/
theorem get?_foldl_of_mem {generated : List GeneratedUnit}
    (distinct : (generated.map GeneratedUnit.qualifiedName).Nodup)
    {made : GeneratedUnit} (member : made ∈ generated) {output : DiskOutput}
    (kept : committed.get? made.qualifiedName = some output) (manifest : Manifest) :
    (generated.foldl (addGenerated graph folder committed) manifest).outputs.get?
      made.qualifiedName = some (entryOf graph folder made output) := by
  induction generated generalizing manifest with
  | nil => exact absurd member List.not_mem_nil
  | cons first rest ih =>
    rw [List.map_cons, List.nodup_cons] at distinct
    rw [List.foldl_cons]
    rcases List.mem_cons.mp member with rfl | later
    · rw [get?_foldl_of_not_mem distinct.1]
      unfold addGenerated
      rw [kept]
      exact (NameMap.get?_insert _ _ _ _).trans (if_pos rfl)
    · exact ih distinct.2 later _

theorem version_foldl (generated : List GeneratedUnit) (manifest : Manifest) :
    (generated.foldl (addGenerated graph folder committed) manifest).version =
      manifest.version := by
  induction generated generalizing manifest with
  | nil => rfl
  | cons first rest ih =>
    rw [List.foldl_cons, ih]
    unfold addGenerated
    cases committed.get? first.qualifiedName with
    | none => rfl
    | some output => rfl

section Round

variable {root : Path} {report : RoundReport}
  (distinct : (report.generated.map GeneratedUnit.qualifiedName).Nodup)
  (kept : ∀ made ∈ report.generated,
    committed.get? made.qualifiedName = some (Disk.entryOf root made))

include distinct kept

theorem get?_ofRound (name : QualifiedName) :
    (ofRound graph folder committed report).outputs.get? name =
      (report.generated.find? fun made => decide (made.qualifiedName = name)).map fun made =>
        entryOf graph folder made (Disk.entryOf root made) := by
  unfold ofRound
  cases found : report.generated.find? fun made => decide (made.qualifiedName = name) with
  | none =>
    rw [get?_foldl_of_not_mem]
    · rfl
    · intro member
      obtain ⟨made, present, same⟩ := List.mem_map.mp member
      exact List.find?_eq_none.mp found made present (by simpa using same)
  | some made =>
    have same : made.qualifiedName = name := by simpa using List.find?_some found
    have present := List.mem_of_find?_eq_some found
    rw [← same]
    exact get?_foldl_of_mem distinct present (kept made present) empty

theorem contains_ofRound_iff (name : QualifiedName) :
    (ofRound graph folder committed report).outputs.contains name = true ↔
      name ∈ report.generated.map GeneratedUnit.qualifiedName := by
  rw [NameMap.contains, get?_ofRound distinct kept, Option.isSome_map, List.find?_isSome,
    List.mem_map]
  simp

/-- A manifest that is made from a round has the records of its outputs, and no
others. -/
theorem mem_entries_ofRound_iff {name : QualifiedName} {entry : ManifestEntry} :
    (name, entry) ∈ (ofRound graph folder committed report).outputs.entries ↔
      ∃ made ∈ report.generated, made.qualifiedName = name ∧
        entryOf graph folder made (Disk.entryOf root made) = entry := by
  rw [NameMap.mem_entries_iff]
  constructor
  · intro stored
    rw [get?_ofRound distinct kept] at stored
    obtain ⟨made, found, recorded⟩ := Option.map_eq_some_iff.mp stored
    exact ⟨made, List.mem_of_find?_eq_some found, by simpa using List.find?_some found, recorded⟩
  · rintro ⟨made, member, rfl, rfl⟩
    exact get?_foldl_of_mem distinct member (kept made member) empty

end Round

/-- The entries that another manifest no longer has, with their names. -/
def goneFrom (manifest next : Manifest) : List (QualifiedName × ManifestEntry) :=
  manifest.outputs.entries.filter fun pair => !next.outputs.contains pair.1

theorem supersededBy_eq (manifest next : Manifest) :
    manifest.supersededBy next = (manifest.goneFrom next).map Prod.snd := rfl

theorem mem_goneFrom_iff {manifest next : Manifest} {name : QualifiedName}
    {entry : ManifestEntry} :
    (name, entry) ∈ manifest.goneFrom next ↔
      manifest.outputs.get? name = some entry ∧ next.outputs.contains name = false := by
  rw [goneFrom, List.mem_filter, NameMap.mem_entries_iff, Bool.not_eq_true']

theorem goneFrom_nodup (manifest next : Manifest) :
    ((manifest.goneFrom next).map Prod.fst).Nodup :=
  manifest.outputs.distinct_names.sublist (List.filter_sublist.map _)

end Manifest

end Stencil
