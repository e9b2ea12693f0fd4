import Stencil.Proofs.Manifest.Record
import Stencil.Proofs.Regeneration.CleanUp

/-!
# What lies at the places of outputs after a run

Outputs are told apart by their names, and so are those that a run supersedes; but what
lies in the folder is told apart by places, and two names can have the same one.  After a
run, the place of an output holds the text of the last output of the round that has this
place, unless a superseded record led there as well.
-/

namespace Stencil

open FileSystem

variable {settings : Settings} {graph : Graph} {folder : Path} {previous : Manifest}
  {files : FileSystem}

namespace Manifest

theorem endsIn_pathIn (fs : FileSystem) (folder : Path) :
    EndsIn (fs.placeOf (pathIn folder)) 'n' := by
  obtain ⟨relative, single⟩ :=
    @Path.moves_single fileName (by decide) (by decide) (by decide)
  have moves := @Path.moves_push folder _ relative
  rw [single] at moves
  exact endsIn_placeOf moves (by decide) (by decide)

theorem changesOnly_save (manifest : Manifest) (folder : Path) (fs : FileSystem) :
    ChangesOnly [fs.placeOf (pathIn folder)] fs (manifest.save folder fs).2 := by
  have made := changesOnly_ensureFolders fs folder
  unfold save
  rcases ensured : ensureFolders folder fs with ⟨error | done, after⟩
  · rw [ensured] at made
    exact made.mono (List.nil_subset _)
  · rw [ensured] at made
    have written := changesOnly_writeFile after (pathIn folder) (Text.octets manifest.print)
    rw [made.keeps.placeOf] at written
    have whole := (made.mono (List.nil_subset _)).trans written
    dsimp only
    rcases writes : writeFile (pathIn folder) (Text.octets manifest.print) after with
      ⟨error | done, last⟩
    · rw [writes] at whole
      exact whole
    · rw [writes] at whole
      exact whole

theorem changesOnly_save_error {manifest : Manifest} {error : ManifestError}
    {folder : Path} {fs after : FileSystem}
    (fails : manifest.save folder fs = (.error error, after)) : ChangesOnly [] fs after := by
  have made := changesOnly_ensureFolders fs folder
  unfold save at fails
  rcases ensured : ensureFolders folder fs with ⟨refusal | done, widened⟩
  · rw [ensured] at fails made
    obtain rfl := (Prod.mk.inj fails).2
    exact made
  · rw [ensured] at fails made
    rcases writes : writeFile (pathIn folder) (Text.octets manifest.print) widened with
      ⟨refusal | done, last⟩
    · simp only [writes] at fails
      obtain rfl := (Prod.mk.inj fails).2
      rw [writeFile_error writes]
      exact made
    · simp only [writes] at fails
      cases (Prod.mk.inj fails).1

theorem keeps_of_save {manifest : Manifest} {result : Except ManifestError Unit}
    {folder : Path} {fs after : FileSystem}
    (saves : manifest.save folder fs = (result, after)) : Keeps fs after := by
  have changes := changesOnly_save manifest folder fs
  rw [saves] at changes
  exact changes.keeps

theorem fileAt?_of_save {manifest : Manifest} {before after : FileSystem} {location : Location}
    (saves : manifest.save folder before = (.ok (), after)) (ends : EndsIn location 'a') :
    after.fileAt? location = before.fileAt? location := by
  have changes := changesOnly_save manifest folder before
  rw [saves] at changes
  have apart := ends.ne (endsIn_pathIn before folder) (by decide)
  exact changes.files location (by simpa using apart)

theorem path_entryOf_eq (graph : Graph) (folder : Path) (made : GeneratedUnit)
    (output : DiskOutput) :
    (entryOf graph folder made output).path =
      (output.path.stripBase? folder).getD output.path := rfl

theorem path_diskEntry (folder : Path) (made : GeneratedUnit) :
    (Disk.entryOf folder made).path = Disk.pathFor folder made.qualifiedName := by
  unfold Disk.entryOf
  dsimp only

theorem placeOf_entryOf (graph : Graph) (folder : Path) (made : GeneratedUnit)
    (fs : FileSystem) :
    fs.placeOf (folder.push (entryOf graph folder made (Disk.entryOf folder made)).path) =
      fs.placeOf (Disk.pathFor folder made.qualifiedName) := by
  have recorded := (path_entryOf_eq graph folder made (Disk.entryOf folder made)).symm
  rw [path_diskEntry] at recorded
  unfold Disk.pathFor at recorded ⊢
  obtain ⟨absolute, moves⟩ := Path.moves_push_recorded recorded
  exact placeOf_eq absolute moves

end Manifest

namespace Disk

variable {generated : List GeneratedUnit} {made : GeneratedUnit} {location : Location}

theorem isSome_lastAt? (member : made ∈ generated)
    (place : files.placeOf (pathFor folder made.qualifiedName) = location) :
    (lastAt? files folder generated location).isSome = true := by
  unfold lastAt?
  rw [List.find?_isSome]
  exact ⟨made, List.mem_reverse.mpr member, decide_eq_true place⟩

theorem lastAt?_eq_some (member : made ∈ generated)
    (place : files.placeOf (pathFor folder made.qualifiedName) = location)
    (alone : ∀ other ∈ generated,
      files.placeOf (pathFor folder other.qualifiedName) = location → other = made) :
    lastAt? files folder generated location = some made := by
  obtain ⟨last, found⟩ := Option.isSome_iff_exists.mp (isSome_lastAt? member place)
  have present := List.mem_reverse.mp (List.mem_of_find?_eq_some found)
  rw [found, alone last present (by simpa using List.find?_some found)]

section Round

variable {ended : Processor} {final : RoundState Disk}
  (round : Processor.process { settings } graph (filer folder) { files } = some (ended, final))

include round

theorem endsIn_of_mem_generated (member : made ∈ final.report.generated) (fs : FileSystem) :
    EndsIn (fs.placeOf (pathFor folder made.qualifiedName)) 'a' := by
  obtain ⟨turns, explained⟩ := Processor.process_turns round
  have generated := explained.generated
  rw [List.nil_append] at generated
  rw [generated] at member
  obtain ⟨turn, present, given⟩ := List.mem_filterMap.mp member
  have emits := ((explained.runs turn present).generated?_eq_some given).2
  exact (emits_footprint emits).2.2 fs

/-- After a round a place that is none of a temporary file holds the text of the last
output there, or what it held before. -/
theorem fileAt?_process_eq {ending : Char} (ends : EndsIn location ending)
    (lasting : ending ≠ 'p') :
    final.sink.files.fileAt? location =
      ((lastAt? files folder final.report.generated location).map fun last =>
        Text.octets last.text).or (files.fileAt? location) := by
  obtain ⟨turns, explained⟩ := Processor.process_turns round
  have generated := explained.generated
  rw [List.nil_append] at generated
  rw [generated]
  exact explained.linked.fileAt?_final explained.runs ends lasting

/-- After a round the place of an output that was generated holds the text of the last
output there. -/
theorem fileAt?_process (member : made ∈ final.report.generated)
    (place : files.placeOf (pathFor folder made.qualifiedName) = location) :
    EndsIn location 'a' ∧ final.sink.files.fileAt? location =
      (lastAt? files folder final.report.generated location).map fun last =>
        Text.octets last.text := by
  have ends : EndsIn location 'a' := place ▸ endsIn_of_mem_generated round member files
  refine ⟨ends, ?_⟩
  rw [fileAt?_process_eq round ends (by decide)]
  obtain ⟨last, found⟩ := Option.isSome_iff_exists.mp (isSome_lastAt? member place)
  rw [found]
  rfl

/-- A round leaves a file that has neither the name of a source nor that of a temporary
file. -/
theorem fileAt?_process_of_other {ending : Char} (ends : EndsIn location ending)
    (noSource : ending ≠ 'a') (lasting : ending ≠ 'p') :
    final.sink.files.fileAt? location = files.fileAt? location := by
  have none_there : lastAt? files folder final.report.generated location = none := by
    unfold lastAt?
    rw [List.find?_eq_none]
    intro made present
    have source := endsIn_of_mem_generated round (List.mem_reverse.mp present) files
    simpa using source.ne ends noSource.symm
  rw [fileAt?_process_eq round ends lasting, none_there]
  rfl

end Round

end Disk

section Run

variable {made : GeneratedUnit} {ended : Processor} {round : RoundState Disk}
  (ends : Processor.process { settings } graph (Disk.filer folder) { files } =
    some (ended, round))
  (member : made ∈ round.report.generated)

include ends member

theorem get?_conclude :
    (conclude graph folder previous round).manifest.outputs.get? made.qualifiedName =
      some (Manifest.entryOf graph folder made (Disk.entryOf folder made)) := by
  obtain ⟨turns, orderly⟩ := Processor.exists_orderly rfl ends
  have committed := orderly.shown_of_mem (Disk.filer_records folder) member
  exact Manifest.get?_foldl_of_mem orderly.qualifiedNames_nodup member committed Manifest.empty

/-- Neither the round nor the saving of the manifest comes in the way of what the clean-up
leaves at the place of an output. -/
theorem fileAt?_conclude (complete : (conclude graph folder previous round).error = none) :
    (conclude graph folder previous round).files.fileAt?
        (files.placeOf (Disk.pathFor folder made.qualifiedName)) =
      if files.placeOf (Disk.pathFor folder made.qualifiedName) ∈
          (conclude graph folder previous round).removed.map files.placeOf then none
      else (Disk.lastAt? files folder round.report.generated
          (files.placeOf (Disk.pathFor folder made.qualifiedName))).map fun last =>
            Text.octets last.text := by
  have saves := save_of_conclude complete
  have changes := Processor.changesOnly_of_passes (Processor.passes_of_process ends)
  have removes := CleanUp.removes_run folder
    (previous.supersededBy (conclude graph folder previous round).manifest) round.sink.files
  obtain ⟨ending, content⟩ := Disk.fileAt?_process ends member rfl
  generalize files.placeOf (Disk.pathFor folder made.qualifiedName) = place at ending content ⊢
  rw [Manifest.fileAt?_of_save saves ending, removes.fileAt?_of_keeps changes.keeps, content]
  rfl

end Run

/-- After a run that gets to its end every output is recorded where it lies.  Its place
holds the text of the last output there, unless a record that the run superseded led there;
so the output is there unharmed if no other one has its place and no removed file had. -/
theorem regenerate_leaves {done : Regeneration}
    (ran : regenerate settings graph folder previous files = some done)
    (complete : done.error = none) {made : GeneratedUnit}
    (member : made ∈ done.report.generated) :
    let place := files.placeOf (Disk.pathFor folder made.qualifiedName)
    ∃ entry, done.manifest.outputs.get? made.qualifiedName = some entry ∧
      files.placeOf (folder.push entry.path) = place ∧
      done.files.fileAt? place =
        (if place ∈ done.removed.map files.placeOf then none
          else (Disk.lastAt? files folder done.report.generated place).map fun last =>
            Text.octets last.text) ∧
      (place ∉ done.removed.map files.placeOf →
        (∀ other ∈ done.report.generated,
          files.placeOf (Disk.pathFor folder other.qualifiedName) = place → other = made) →
        done.files.fileAt? place = some (Text.octets made.text)) := by
  obtain ⟨ended, round, ends, rfl⟩ := regenerate_eq_some_iff.mp ran
  have written := fileAt?_conclude ends member complete
  refine ⟨_, get?_conclude ends member, Manifest.placeOf_entryOf graph folder made files, written,
    fun kept alone => ?_⟩
  have last : Disk.lastAt? files folder round.report.generated _ = some made :=
    Disk.lastAt?_eq_some member rfl alone
  rw [written, if_neg kept, last]
  rfl

/-- A package with a template. -/
def packageOfApp (name : String) : Package where
  name
  declarations := [{
    name := "App", kind := .interfaceType, annotations := ["aptgen.annotation.Sample"] }]

def Graph.dottedPackage : Graph where
  entries := entriesOf false [packageOfApp "app."]
  distinct := by decide

def Graph.plainPackage : Graph where
  entries := entriesOf false [packageOfApp "app"]
  distinct := by decide

/-- The only output of a round in an empty folder lies where it is recorded. -/
theorem regenerate_leaves_plainPackage :
    ∃ done, regenerate {} Graph.plainPackage ⟨"out"⟩ Manifest.empty {} = some done ∧
      done.error = none ∧
      done.report.generated.map GeneratedUnit.qualifiedName = ["app.App_Impl"] ∧
      ∀ made ∈ done.report.generated, ∃ entry,
        done.manifest.outputs.get? made.qualifiedName = some entry ∧
          done.files.fileAt? (({} : FileSystem).placeOf (Path.push ⟨"out"⟩ entry.path)) =
            some (Text.octets made.text) := by
  obtain ⟨done, ran, ends, generated, kept⟩ :
      ∃ done ∈ regenerate {} Graph.plainPackage ⟨"out"⟩ Manifest.empty {},
        done.error.isNone = true ∧
          done.report.generated.map GeneratedUnit.qualifiedName = ["app.App_Impl"] ∧
          done.removed = [] := by
    decide +kernel
  have complete := Option.isNone_iff_eq_none.mp ends
  obtain ⟨only, single, -⟩ := List.map_eq_singleton_iff.mp generated
  refine ⟨done, ran, complete, generated, fun made member => ?_⟩
  obtain ⟨entry, recorded, place, -, there⟩ := regenerate_leaves ran complete member
  refine ⟨entry, recorded, ?_⟩
  rw [place]
  apply there
  · rw [kept]
    exact List.not_mem_nil
  · intro other listed _
    rw [single] at listed member
    exact (List.mem_singleton.mp listed).trans (List.mem_singleton.mp member).symm

def Graph.bothPackages : Graph where
  entries := entriesOf false [packageOfApp "app.", packageOfApp "app"]
  distinct := by decide

/-- A package whose name ends with a dot has its outputs where the package without the dot
has them.  A run on the second after a run on the first removes what it has just written,
and a run on both leaves only the later output of the two. -/
theorem regenerate_leaves_samePlace :
    (∃ first ∈ regenerate {} Graph.dottedPackage ⟨"out"⟩ Manifest.empty {},
      ∃ second ∈ regenerate {} Graph.plainPackage ⟨"out"⟩ first.manifest first.files,
        first.error.isNone = true ∧ second.error.isNone = true ∧
          second.report.generated.map GeneratedUnit.qualifiedName = ["app.App_Impl"] ∧
          (second.manifest.outputs.get? "app.App_Impl").map ManifestEntry.path =
            some ⟨"app/App_Impl.java"⟩ ∧
          second.removed = [⟨"out/app/App_Impl.java"⟩] ∧
          second.files.fileAt? ["out", "app", "App_Impl.java"] = none) ∧
      ∃ both ∈ regenerate {} Graph.bothPackages ⟨"out"⟩ Manifest.empty {},
        both.error.isNone = true ∧
          both.report.generated.map GeneratedUnit.qualifiedName =
            ["app..App_Impl", "app.App_Impl"] ∧
          both.manifest.outputs.entries.map (fun pair => pair.2.path) =
            [⟨"app/App_Impl.java"⟩, ⟨"app/App_Impl.java"⟩] ∧
          both.report.generated.map (fun made => decide
            (both.files.fileAt? ["out", "app", "App_Impl.java"] =
              some (Text.octets made.text))) = [false, true] := by
  decide +kernel

end Stencil
