import Stencil.Proofs.FileSystem.Tidiness
import Stencil.Proofs.Manifest.RoundTrip

/-!
# Manifests in folders

Whether a manifest can be saved is a matter of the folder alone.  The manifest that was saved
is what the file of the folder holds afterwards, so it is loaded again, whatever its texts
are, and refused if it has a version that is not understood.
-/

namespace Stencil

open FileSystem

namespace Manifest

variable {manifest : Manifest} {folder : Path} {before after : FileSystem}

theorem isPathName_fileName : ∀ name ∈ [fileName], IsPathName name := by
  intro name member
  rw [List.mem_singleton.mp member]
  exact ⟨by decide, by decide, by decide, by decide, by decide⟩

theorem short_fileName : fileName.utf8ByteSize ≤ longestName := by decide

theorem dot_mem_fileName : '.' ∈ fileName.toList := by decide

theorem pathIn_eq (folder : Path) : pathIn folder = folder.push (.ofNames [fileName]) := by
  rw [pathIn, Path.ofNames_singleton]

theorem points_pathIn {base : Location} (leads : Leads before folder base)
    (fits : (pathIn folder).text.utf8ByteSize ≤ longestPath) :
    Points before (pathIn folder) base fileName := by
  rw [pathIn_eq] at fits ⊢
  have longer : (folder.push (.ofNames [fileName])).Extends folder ([] ++ [fileName]) :=
    Path.push_extends (List.cons_ne_nil _ _) isPathName_fileName
  have noZero := zero_not_mem_push leads.noZero (List.cons_ne_nil _ _) isPathName_fileName
  exact ⟨leads.follow_eq longer noZero isPathName_fileName fits, short_fileName⟩

theorem ensureFolders_of_fits {base : Location} (leads : Leads before folder base)
    (fits : (pathIn folder).text.utf8ByteSize ≤ longestPath) :
    ensureFolders folder before = (.ok (), before) := by
  rcases leads.ensureFolders_cases with made | ⟨long, -⟩
  · exact made
  · rw [pathIn_eq] at fits
    have size := size_le_push folder (List.cons_ne_nil _ _) isPathName_fileName
    exact absurd (Nat.le_trans size fits) (Nat.not_le.mpr long)

/-- Whether there is room for a manifest: its folder is there or can be made, and in it no
folder has the name of the manifest's file. -/
def HasRoom (folder : Path) (before : FileSystem) : Prop :=
  ∃ made location name, ensureFolders folder before = (.ok (), made) ∧
    Points made (pathIn folder) location name ∧
    made.itemAt? (location ++ [name]) ≠ some .folder

theorem save_eq {made : FileSystem} {location : Location} {name : String}
    (ensured : ensureFolders folder before = (.ok (), made))
    (points : Points made (pathIn folder) location name)
    (noFolder : made.itemAt? (location ++ [name]) ≠ some .folder) (manifest : Manifest) :
    manifest.save folder before =
      (.ok (), made.put (location ++ [name]) (.file (Text.octets manifest.print))) := by
  have written := points.writeFile_eq noFolder (Text.octets manifest.print)
  unfold save
  simp only [ensured, written]

theorem save_of_hasRoom (room : HasRoom folder before) (manifest : Manifest) :
    ∃ after, manifest.save folder before = (.ok (), after) := by
  obtain ⟨made, location, name, ensured, points, noFolder⟩ := room
  exact ⟨_, save_eq ensured points noFolder manifest⟩

theorem writes_of_save (saves : manifest.save folder before = (.ok (), after)) :
    ∃ made, ensureFolders folder before = (.ok (), made) ∧
      writeFile (pathIn folder) (Text.octets manifest.print) made = (.ok (), after) := by
  unfold save at saves
  cases ensures : ensureFolders folder before with
  | mk result made =>
    cases result with
    | error error =>
      rw [ensures] at saves
      cases saves
    | ok done =>
      refine ⟨made, rfl, ?_⟩
      cases writes : writeFile (pathIn folder) (Text.octets manifest.print) made with
      | mk result last =>
        simp only [ensures, writes] at saves
        cases result with
        | error error => cases saves
        | ok done => rw [(Prod.mk.inj saves).2]

theorem hasRoom_of_save (saves : manifest.save folder before = (.ok (), after)) :
    HasRoom folder before := by
  obtain ⟨made, ensured, writes⟩ := writes_of_save saves
  obtain ⟨location, name, points, noFolder, -⟩ := points_of_writeFile writes
  exact ⟨made, location, name, ensured, points, noFolder⟩

theorem find_of_save (saves : manifest.save folder before = (.ok (), after)) :
    after.find (pathIn folder) = .ok (.file (Text.octets manifest.print)) := by
  obtain ⟨_, -, writes⟩ := writes_of_save saves
  exact find_of_writeFile writes

/-- Where there is room, and nowhere else, manifests can be saved.  A manifest that was saved
is loaded again without change; if it has another version, loading is refused for that. -/
theorem load_save (manifest : Manifest) (small : manifest.version < UInt32.size)
    (folder : Path) (before : FileSystem) :
    ((manifest.save folder before).1 = .ok () ↔ HasRoom folder before) ∧
      ∀ after, manifest.save folder before = (.ok (), after) →
        load after folder =
          if manifest.version = currentVersion then .ok (some manifest)
          else .error (.unsupported (pathIn folder) manifest.version) := by
  refine ⟨⟨?_, ?_⟩, ?_⟩
  · intro succeeds
    exact hasRoom_of_save (Prod.ext succeeds rfl)
  · intro room
    obtain ⟨after, saves⟩ := save_of_hasRoom room manifest
    rw [saves]
  · intro after saves
    exact load_eq_of_find small (find_of_save saves)

/-- Two outputs with texts that need escapes, one of them with nothing recorded but names. -/
def oddTexts : Manifest where
  version := currentVersion
  outputs := .ofList [
    ("", ⟨⟨"../\"a\".java"⟩, "app.\\", "", .ofList [("é\n", "00"), ("\x00", "\t")], []⟩),
    ("app.A_Impl", ⟨⟨"app/A_Impl.java"⟩, "app.A", "ff", .empty, ["app.B", "", "app.B"]⟩)]

theorem hasRoom_empty : HasRoom ⟨"out"⟩ {} :=
  ⟨_, ["out"], fileName, rfl, ⟨by decide +kernel, by decide⟩, by decide +kernel⟩

/-- The texts are loaded again as they are, and with another version they are refused. -/
theorem load_save_oddTexts :
    oddTexts.version < UInt32.size ∧
      (∃ after, oddTexts.save ⟨"out"⟩ {} = (.ok (), after) ∧
        load after ⟨"out"⟩ = .ok (some oddTexts)) ∧
      ∃ after, { oddTexts with version := 2 }.save ⟨"out"⟩ {} = (.ok (), after) ∧
        load after ⟨"out"⟩ = .error (.unsupported (pathIn ⟨"out"⟩) 2) := by
  have small : oddTexts.version < UInt32.size := by decide
  have other : ({ oddTexts with version := 2 } : Manifest).version < UInt32.size := by decide
  obtain ⟨after, saves⟩ := save_of_hasRoom hasRoom_empty oddTexts
  obtain ⟨last, otherSaves⟩ := save_of_hasRoom hasRoom_empty { oddTexts with version := 2 }
  refine ⟨small, ⟨after, saves, ?_⟩, last, otherSaves, ?_⟩
  · exact ((load_save oddTexts small _ _).2 after saves).trans (if_pos rfl)
  · exact ((load_save { oddTexts with version := 2 } other _ _).2 last otherSaves).trans
      (if_neg (by decide))

end Manifest

end Stencil
