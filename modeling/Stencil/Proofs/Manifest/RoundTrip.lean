import Stencil.Manifest.Storage
import Stencil.Proofs.Declaration.Encoding
import Stencil.Proofs.Json.Readers
import Stencil.Proofs.Names.Map
import Stencil.Proofs.Text.Utf8

/-!
# Manifests are read back as they were saved

Every part of a manifest is read back from what it is written as, from the
texts up to the map of all outputs.  A saved manifest is therefore loaded again
without change.
-/

namespace Stencil

open Json

namespace ManifestEntry

theorem readsBack_map {α : Type} {value : Reader α} {write : α → Value}
    (each : ∀ content, value.ReadsBack (write content) content) (map : NameMap α) :
    (mapReader value).ReadsBack
      (.object (map.entries.map fun pair => (pair.1, write pair.2))) map := by
  intro levels
  unfold mapReader
  rw [Reader.readsBack_fields each map.entries levels, withinLevels_map, NameMap.ofList_entries]

/-- The field of an entry that is left out if there is nothing in it. -/
def lastFields (entry : ManifestEntry) : List (String × Value) :=
  if entry.unresolved.isEmpty then [] else [("unresolved", .texts entry.unresolved)]

theorem readsEntries_lastFields (entry : ManifestEntry) {seen : List String}
    (fresh : seen.contains "unresolved" = false) :
    record.ReadsEntries entry.lastFields seen { entry with unresolved := [] } entry := by
  unfold lastFields
  cases unresolved : entry.unresolved with
  | nil =>
    have whole : { entry with unresolved := [] } = entry := by rw [← unresolved]
    rw [whole]
    exact Record.readsEntries_nil seen entry
  | cons name rest =>
    apply Record.readsEntries_cons rfl fresh
      (Reader.readsBack_list (Reader.readsBack_text _) (name :: rest))
    rw [← unresolved]
    exact Record.readsEntries_nil _ entry

theorem readsBack_toValue (entry : ManifestEntry) :
    record.reader.ReadsBack entry.toValue entry := by
  have complete : record.missing? ((["path", "template", "template_fingerprint", "sources"] ++
      entry.lastFields.map (·.1)).reverse) = none := by
    simp [Record.missing?, record, fieldOf]
  apply Record.readsBack_of_entries complete
  apply Record.readsEntries_cons rfl rfl (Reader.readsBack_text _ entry.path.text)
  apply Record.readsEntries_cons rfl rfl (Reader.readsBack_text _ entry.template)
  apply Record.readsEntries_cons rfl rfl (Reader.readsBack_text _ entry.templateFingerprint)
  apply Record.readsEntries_cons rfl rfl (readsBack_map (Reader.readsBack_text _) entry.sources)
  exact entry.readsEntries_lastFields rfl

theorem depth_toValue_le (entry : ManifestEntry) : entry.toValue.depth ≤ 2 := by
  have text : ∀ content, (Value.text content).depth ≤ 0 := fun _ => le_rfl
  have sources : depthOfFields (entry.sources.entries.map fun pair => (pair.1, .text pair.2)) ≤ 0 :=
    depthOfFields_map_le text entry.sources.entries
  have last : depthOfFields entry.lastFields ≤ 1 := by
    unfold lastFields
    split
    · exact Nat.zero_le 1
    · exact max_le (Nat.succ_le_succ (depthOfItems_map_le text entry.unresolved)) (Nat.zero_le 1)
  have fields : max (depthOfFields (entry.sources.entries.map fun pair =>
      (pair.1, Value.text pair.2)) + 1) (depthOfFields entry.lastFields) ≤ 1 :=
    max_le (Nat.succ_le_succ sources) last
  exact Nat.succ_le_succ
    (max_le (Nat.zero_le 1) (max_le (Nat.zero_le 1) (max_le (Nat.zero_le 1) fields)))

theorem whole_toValue (entry : ManifestEntry) : entry.toValue.Whole := by
  have text : ∀ content, (Value.text content).Whole := fun _ => trivial
  have sources : WholeFields (entry.sources.entries.map fun pair => (pair.1, .text pair.2)) :=
    wholeFields_map text entry.sources.entries
  have last : WholeFields entry.lastFields := by
    unfold lastFields
    split
    · exact trivial
    · exact ⟨wholeItems_map text entry.unresolved, trivial⟩
  exact ⟨trivial, trivial, trivial, sources, last⟩

end ManifestEntry

namespace Manifest

theorem readsBack_toValue {manifest : Manifest} (small : manifest.version < UInt32.size) :
    record.reader.ReadsBack manifest.toValue manifest := by
  apply Record.readsBack_of_entries rfl
  apply Record.readsEntries_cons rfl rfl
    (Reader.readsBack_naturalBelow _ small (Nat.lt_trans small (by decide)))
  apply Record.readsEntries_cons rfl rfl
    (ManifestEntry.readsBack_map ManifestEntry.readsBack_toValue manifest.outputs)
  exact Record.readsEntries_nil _ manifest

theorem depth_toValue_le (manifest : Manifest) : manifest.toValue.depth ≤ 4 := by
  have outputs : depthOfFields (manifest.outputs.entries.map fun pair =>
      (pair.1, pair.2.toValue)) ≤ 2 :=
    depthOfFields_map_le ManifestEntry.depth_toValue_le manifest.outputs.entries
  have fields : max (depthOfFields (manifest.outputs.entries.map fun pair =>
      (pair.1, pair.2.toValue)) + 1) 0 ≤ 3 :=
    max_le (Nat.succ_le_succ outputs) (Nat.zero_le 3)
  exact Nat.succ_le_succ (max_le (Nat.zero_le 3) fields)

theorem whole_toValue {manifest : Manifest} (small : manifest.version < UInt32.size) :
    manifest.toValue.Whole :=
  ⟨Nat.lt_trans small (by decide),
    wholeFields_map ManifestEntry.whole_toValue manifest.outputs.entries, trivial⟩

/-- A manifest is read back from its text. -/
theorem parse_print {manifest : Manifest} (small : manifest.version < UInt32.size) :
    parse manifest.print = .ok manifest := by
  have spelled := ofText_toPretty (whole_toValue small)
  have fits : manifest.toValue.depth ≤ deepest := le_trans manifest.depth_toValue_le (by decide)
  exact (Reader.run_of_ofText spelled (readsBack_toValue small)).trans
    (withinLevels_of_le fits manifest)

/-- What loading makes of a manifest that lies in its file: it is read back, and refused unless
it has the version that is understood. -/
theorem load_eq_of_find {manifest : Manifest} (small : manifest.version < UInt32.size)
    {fs : FileSystem} {folder : Path}
    (found : fs.find (pathIn folder) = .ok (.file (Text.octets manifest.print))) :
    load fs folder =
      if manifest.version = currentVersion then .ok (some manifest)
      else .error (.unsupported (pathIn folder) manifest.version) := by
  have text : fs.readText (pathIn folder) = .ok manifest.print := by
    simp only [FileSystem.readText, found, Text.decode_octets]
  have has : fs.has (pathIn folder) = true := by
    unfold FileSystem.has
    rw [found]
    rfl
  unfold load
  simp only [has, if_true, text, ofText, parse_print small]
  by_cases current : manifest.version = currentVersion
  · rw [if_pos current, if_pos current]
    rfl
  · rw [if_neg current, if_neg current]
    rfl

theorem load_of_find {manifest : Manifest} (current : manifest.version = currentVersion)
    {fs : FileSystem} {folder : Path}
    (found : fs.find (pathIn folder) = .ok (.file (Text.octets manifest.print))) :
    load fs folder = .ok (some manifest) := by
  have small : manifest.version < UInt32.size := by
    rw [current]
    decide
  rw [load_eq_of_find small found, if_pos current]

end Manifest

end Stencil
