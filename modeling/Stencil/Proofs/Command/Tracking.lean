import Stencil.Proofs.Command.Freshness
import Stencil.Proofs.Regeneration.Outputs

/-!
# Which outputs a folder keeps track of

A run writes its outputs first, then removes the files that are no longer produced, and
saves its manifest last.  If it gets to its end, also with templates that failed, all its
outputs are recorded in the folder, and a later run can remove them.  If it stops on the
way, because a file cannot be removed or the manifest cannot be saved, the folder has the
record of the run before, so an output is only recorded if it was there already.
-/

namespace Stencil

open FileSystem

namespace Manifest

variable {fs after : FileSystem} {folder : Path}

theorem find_of_load {manifest : Manifest} (read : load fs folder = .ok (some manifest)) :
    ∃ content, fs.find (pathIn folder) = .ok (.file content) := by
  unfold load has readText at read
  dsimp only at read
  cases found : fs.find (pathIn folder) with
  | error error =>
    rw [found] at read
    cases read
  | ok item =>
    cases item with
    | file content => exact ⟨content, rfl⟩
    | folder =>
      rw [found] at read
      cases read

theorem load_congr (same : after.find (pathIn folder) = fs.find (pathIn folder)) :
    load after folder = load fs folder := by
  unfold load has readText
  dsimp only
  rw [same]

end Manifest

/-- The outputs that the round of a run commits, if it has an end. -/
def Graph.committed (graph : Graph) (settings : Settings) (folder : Path) (files : FileSystem) :
    Option (NameMap DiskOutput) :=
  (Processor.process { settings } graph (Disk.filer folder) { files }).map fun (_, round) =>
    round.sink.outputs

section Run

variable {settings : Settings} {graph : Graph} {folder : Path} {files : FileSystem}
  {ended : Processor} {round : RoundState Disk}
  (ends : Processor.process { settings } graph (Disk.filer folder) { files } =
    some (ended, round)) (previous : Manifest)

include ends

theorem keeps_conclude : Keeps files (conclude graph folder previous round).files := by
  have changed := Processor.changesOnly_of_passes (Processor.passes_of_process ends)
  have cleaned := changed.keeps.trans (CleanUp.keeps_run folder
    (previous.supersededBy (conclude graph folder previous round).manifest) _)
  rcases conclude_cases graph folder previous round with
    ⟨file, error, -, -, left⟩ | ⟨-, ⟨error, -, saves⟩ | ⟨-, saves⟩⟩
  · exact left ▸ cleaned
  · exact cleaned.trans (Manifest.keeps_of_save saves)
  · exact cleaned.trans (Manifest.keeps_of_save saves)

/-- A run that stops leaves every file that has neither the name of a source nor that of a
temporary file, unless a record led there. -/
theorem fileAt?_of_stopped
    (failed : (conclude graph folder previous round).error.isSome = true)
    {location : Location} {ending : Char} (named : EndsIn location ending)
    (noSource : ending ≠ 'a') (lasting : ending ≠ 'p') :
    (conclude graph folder previous round).files.fileAt? location =
      if location ∈ (conclude graph folder previous round).removed.map files.placeOf
      then none else files.fileAt? location := by
  have changed := Processor.changesOnly_of_passes (Processor.passes_of_process ends)
  have removes := CleanUp.removes_run folder
    (previous.supersededBy (conclude graph folder previous round).manifest) round.sink.files
  have cleaned := removes.fileAt?_of_keeps changed.keeps location
  rw [Disk.fileAt?_process_of_other ends named noSource lasting] at cleaned
  rcases conclude_cases graph folder previous round with
    ⟨file, error, -, -, left⟩ | ⟨-, ⟨error, -, saves⟩ | ⟨complete, -⟩⟩
  · rw [left]
    exact cleaned
  · rw [(Manifest.changesOnly_save_error saves).files location List.not_mem_nil]
    exact cleaned
  · rw [complete] at failed
    cases failed

/-- What a round commits are the outputs that it generates. -/
theorem exists_of_committed {name : QualifiedName} {output : DiskOutput}
    (committed : round.sink.outputs.get? name = some output) :
    ∃ made ∈ round.report.generated,
      made.qualifiedName = name ∧ Disk.entryOf folder made = output := by
  obtain ⟨turns, orderly⟩ := Processor.exists_orderly rfl ends
  have shown := (orderly.committed (Disk.filer_records folder) name).symm.trans committed
  have nothing : Disk.shown { files } name = none := rfl
  rw [nothing, Option.or_none] at shown
  obtain ⟨made, found, entry⟩ := Option.map_eq_some_iff.mp shown
  exact ⟨made, List.mem_of_find?_eq_some found, by simpa using List.find?_some found, entry⟩

end Run

/-- The recorded path of an output with a confined name goes down. -/
theorem Manifest.isContained_entryOf (graph : Graph) (folder : Path) {made : GeneratedUnit}
    (confined : IsConfined made.qualifiedName) :
    (entryOf graph folder made (Disk.entryOf folder made)).path.isContained = true := by
  have contained := Disk.isContained_of_isConfined confined
  have relative := (Path.isContained_iff.mp contained).1
  obtain ⟨rest, stripped⟩ := Option.isSome_iff_exists.mp
    (@Path.isSome_stripBase?_push folder _ relative)
  have recorded : (entryOf graph folder made (Disk.entryOf folder made)).path = rest := by
    rw [path_entryOf_eq, path_diskEntry]
    unfold Disk.pathFor
    rw [stripped, Option.getD_some]
  rw [recorded]
  exact Path.isContained_of_stripBase?_push contained stripped

/-- What is recorded of the outputs of a round when the run has ended, in its manifest and
in the folder. -/
structure Regeneration.Tracks (settings : Settings) (graph : Graph) (folder : Path)
    (previous : Manifest) (files : FileSystem) (done : Regeneration) : Prop where
  /-- Every committed output has a record that leads to it, and which the clean-up of a later
  run does not leave alone if the name of the output is confined. -/
  recorded : ∃ outputs, graph.committed settings folder files = some outputs ∧
    ∀ name output, outputs.get? name = some output →
      ∃ entry, done.manifest.outputs.get? name = some entry ∧
        files.placeOf (folder.push entry.path) = files.placeOf output.path ∧
        (IsConfined name → entry.path.isContained = true)
  saved : done.error = none → Manifest.load done.files folder = .ok (some done.manifest)
  /-- A run that stops leaves the file of the manifest, unless a record led there. -/
  unsaved : done.error.isSome = true →
    done.files.fileAt? (files.placeOf (Manifest.pathIn folder)) =
      if files.placeOf (Manifest.pathIn folder) ∈ done.removed.map files.placeOf then none
      else files.fileAt? (files.placeOf (Manifest.pathIn folder))
  /-- So what is recorded in the folder then was recorded there before. -/
  earlier : done.error.isSome = true → ∀ recorded,
    Manifest.load files folder = .ok (some recorded) → ∀ now,
      Manifest.load done.files folder = .ok (some now) ↔
        files.placeOf (Manifest.pathIn folder) ∉ done.removed.map files.placeOf ∧ now = recorded

/-- The record of the folder is that of the round, or it is that of the run before. -/
theorem tracks_of_regenerate {settings : Settings} {graph : Graph} {folder : Path}
    {previous : Manifest} {files : FileSystem} {done : Regeneration}
    (ran : regenerate settings graph folder previous files = some done) :
    Regeneration.Tracks settings graph folder previous files done := by
  obtain ⟨ended, round, ends, rfl⟩ := regenerate_eq_some_iff.mp ran
  have unsaved := fun failed => fileAt?_of_stopped ends previous failed
    (Manifest.endsIn_pathIn files folder) (by decide) (by decide)
  constructor
  case recorded =>
    refine ⟨round.sink.outputs, congrArg (Option.map _) ends, fun name output committed => ?_⟩
    obtain ⟨made, member, rfl, rfl⟩ := exists_of_committed ends committed
    refine ⟨_, get?_conclude ends member, ?_, Manifest.isContained_entryOf graph folder⟩
    rw [Manifest.path_diskEntry]
    exact Manifest.placeOf_entryOf graph folder made files
  case saved =>
    intro complete
    exact Manifest.load_of_save (Manifest.version_foldl _ _) (save_of_conclude complete)
  case unsaved => exact unsaved
  case earlier =>
    intro failed recorded read now
    have keeps := keeps_conclude ends previous
    obtain ⟨content, found⟩ := Manifest.find_of_load read
    have left := unsaved failed
    by_cases gone : files.placeOf (Manifest.pathIn folder) ∈
        (conclude graph folder previous round).removed.map files.placeOf
    · rw [if_pos gone] at left
      refine ⟨fun readNow => ?_, fun kept => absurd gone kept.1⟩
      obtain ⟨other, foundNow⟩ := Manifest.find_of_load readNow
      have there := fileAt?_of_find foundNow
      rw [keeps.placeOf, left] at there
      cases there
    · rw [if_neg gone] at left
      rw [Manifest.load_congr (find_of_keeps keeps found left), read]
      constructor
      · rintro ⟨⟩
        exact ⟨gone, rfl⟩
      · rintro ⟨-, rfl⟩
        rfl

namespace Command

/-- A run that gets past loading and to the end of its round leaves in its folder the record
of all that it committed if it gets to its end, and that of the run before if it stops. -/
theorem generate_tracks {run : Invocation} {files : FileSystem} {loaded : Loaded}
    (past : load? run files = some loaded) {outcome : Outcome}
    (ran : generate run files = some outcome) :
    ∃ done, loaded.regenerate files = some done ∧ outcome.files = done.files ∧
      Regeneration.Tracks loaded.settings loaded.graph loaded.folder loaded.previous files
        done := by
  obtain ⟨done, regenerated, left⟩ := exists_regenerate_of_generate past ran
  exact ⟨done, regenerated, left.symm, tracks_of_regenerate regenerated⟩

/-- The outputs that a run commits once it is past loading. -/
def Loaded.committed (loaded : Loaded) (files : FileSystem) : Option (NameMap DiskOutput) :=
  loaded.graph.committed loaded.settings loaded.folder files

/-- A first run records its output in the folder, with a path that goes down. -/
theorem generate_tracks_unstarted :
    ∃ loaded outcome outputs, load? {} unstarted = some loaded ∧
      generate {} unstarted = some outcome ∧
      loaded.committed unstarted = some outputs ∧ outputs.contains "A_Impl" = true ∧
      ∃ manifest entry,
        Manifest.load outcome.files loaded.folder = .ok (some manifest) ∧
        manifest.outputs.get? "A_Impl" = some entry ∧ entry.path.isContained = true := by
  obtain ⟨loaded, past, done, ran, complete, outputs, round, kept⟩ :
      ∃ loaded ∈ load? {} unstarted, ∃ done ∈ loaded.regenerate unstarted,
        done.error.isNone = true ∧
          ∃ outputs ∈ loaded.committed unstarted, outputs.contains "A_Impl" = true := by
    decide +kernel
  obtain ⟨outcome, ends, left⟩ := exists_generate past ran
  obtain ⟨_, regenerated, -, tracks⟩ := generate_tracks past ends
  obtain rfl := Option.some.inj (ran.symm.trans regenerated)
  obtain ⟨_, committed, recorded⟩ := tracks.recorded
  obtain rfl := Option.some.inj (round.symm.trans committed)
  obtain ⟨output, found⟩ := NameMap.contains_eq_true_iff.mp kept
  obtain ⟨entry, stored, -, contained⟩ := recorded _ _ found
  refine ⟨loaded, outcome, outputs, past, ends, round, kept, _, entry, ?_, stored,
    contained (by decide +kernel)⟩
  rw [left]
  exact tracks.saved (Option.isNone_iff_eq_none.mp complete)

/-- The folder of a run on a template, where a folder stands in the way of a recorded
output. -/
def blocked : FileSystem where
  entries := unstarted.entries ++ [
    (["generated", "Old_Impl.java"], .folder),
    (["generated", "aptgen-manifest.json"], .file (Text.octets
      ("\x7b\"version\": 1, \"outputs\": \x7b\"Old_Impl\": \x7b\"path\": \"Old_Impl.java\", " ++
        "\"template\": \"Old\", \"template_fingerprint\": \"\", \"sources\": \x7b\x7d\x7d\x7d\x7d")))]

/-- A run that cannot remove a file has committed its output, and the folder has no record of
it. -/
theorem generate_tracks_blocked :
    ∃ loaded done outcome outputs now, load? {} blocked = some loaded ∧
      loaded.regenerate blocked = some done ∧ generate {} blocked = some outcome ∧
      loaded.committed blocked = some outputs ∧ outputs.contains "A_Impl" = true ∧
      done.error.isSome = true ∧
      Manifest.load outcome.files loaded.folder = .ok (some now) ∧
      now.outputs.contains "A_Impl" = false := by
  obtain ⟨loaded, past, done, ran, failed, nothing, old, absent, outputs, round, committed⟩ :
      ∃ loaded ∈ load? {} blocked, ∃ done ∈ loaded.regenerate blocked,
        done.error.isSome = true ∧ done.removed = [] ∧
          loaded.previous.outputs.contains "Old_Impl" = true ∧
          loaded.previous.outputs.contains "A_Impl" = false ∧
          ∃ outputs ∈ loaded.committed blocked, outputs.contains "A_Impl" = true := by
    decide +kernel
  obtain ⟨outcome, ends, left⟩ := exists_generate past ran
  obtain ⟨-, previous, read, given⟩ := generate_of_load?_some past
  cases previous with
  | none =>
    rw [given] at old
    cases old
  | some previous =>
    obtain rfl : loaded.previous = previous := given
    refine ⟨loaded, done, outcome, outputs, loaded.previous, past, ran, ends, round, committed,
      failed, ?_, absent⟩
    rw [left, (tracks_of_regenerate ran).earlier failed _ read loaded.previous, nothing]
    exact ⟨List.not_mem_nil, rfl⟩

end Command

end Stencil
