import Stencil.Proofs.Round.Footprint
import Stencil.Regeneration

/-!
# What the clean-up removes

The clean-up goes over records that were read from a file, so their paths can be any
texts.  It removes files strictly below the folder of the outputs and nothing else, and
it does so as if the records whose paths it leaves alone were not there.
-/

namespace Stencil

open FileSystem

namespace CleanUp

/-- A step of the clean-up removes the file of a contained path, or no file at all. -/
theorem take_cases (folder : Path) (state : CleanUp) (entry : ManifestEntry) :
    (∃ kept stopped, take folder state entry = { state with kept, stopped }) ∨
      entry.path.isContained = true ∧
        ∃ files, removeFile (folder.push entry.path) state.files = (.ok (), files) ∧
          take folder state entry =
            { state with files, removed := state.removed ++ [folder.push entry.path] } := by
  unfold take
  split_ifs with stopped contained
  · exact .inl ⟨state.kept, state.stopped, rfl⟩
  · exact .inl ⟨state.kept ++ [entry.path], state.stopped, rfl⟩
  · dsimp only
    split_ifs with there
    · split
      · rename_i files removed
        exact .inr ⟨by simpa using contained, files, removed, rfl⟩
      · rename_i error files fails
        rw [removeFile_error fails]
        exact .inl ⟨state.kept, _, rfl⟩
    · exact .inl ⟨state.kept, state.stopped, rfl⟩

/-- Only files of contained paths were removed, and all else is as it was before. -/
structure Removes (folder : Path) (entries : List ManifestEntry) (before : FileSystem)
    (state : CleanUp) : Prop where
  working : state.files.working = before.working
  removed : ∀ file ∈ state.removed, ∃ entry ∈ entries,
    entry.path.isContained = true ∧ file = folder.push entry.path
  items : ∀ location, state.files.itemAt? location =
    if location ∈ state.removed.map before.placeOf then none else before.itemAt? location

variable {folder : Path} {entries : List ManifestEntry} {before : FileSystem} {state : CleanUp}

theorem Removes.take (removes : Removes folder entries before state) {entry : ManifestEntry}
    (member : entry ∈ entries) : Removes folder entries before (take folder state entry) := by
  rcases take_cases folder state entry with ⟨kept, stopped, taken⟩ |
    ⟨contained, files, removed, taken⟩
  · rw [taken]
    exact ⟨removes.working, removes.removed, removes.items⟩
  · have changed := itemAt?_of_removeFile removed
    have working : files.working = state.files.working := by
      obtain ⟨_, _, _, _, -, rfl⟩ := points_of_removeFile removed
      rfl
    rw [placeOf_congr removes.working] at changed
    rw [taken]
    refine ⟨working.trans removes.working, ?_, fun location => ?_⟩
    · intro file listed
      rcases List.mem_append.mp listed with earlier | own
      · exact removes.removed file earlier
      · exact ⟨entry, member, contained, List.mem_singleton.mp own⟩
    · show files.itemAt? location = _
      rw [changed, removes.items, List.map_append, List.map_singleton]
      by_cases same : location = before.placeOf (folder.push entry.path)
      · simp [same]
      · simp [same]

theorem Removes.foldl_take {rest : List ManifestEntry} (within : rest ⊆ entries)
    (removes : Removes folder entries before state) :
    Removes folder entries before (rest.foldl (CleanUp.take folder) state) := by
  induction rest generalizing state with
  | nil => exact removes
  | cons entry rest ih =>
    obtain ⟨member, later⟩ := List.cons_subset.mp within
    exact ih later (removes.take member)

theorem removes_run (folder : Path) (entries : List ManifestEntry) (before : FileSystem) :
    Removes folder entries before (run folder entries before) := by
  have start : Removes folder entries before { files := before } :=
    ⟨rfl, fun file listed => absurd listed List.not_mem_nil, fun location => rfl⟩
  exact start.foldl_take (List.Subset.refl _)

/-- The places of the removed files are those that their paths name in an earlier file
system with the same working folder. -/
theorem Removes.items_of_keeps {files : FileSystem} (keeps : Keeps files before)
    (removes : Removes folder entries before state) (location : Location) :
    state.files.itemAt? location =
      if location ∈ state.removed.map files.placeOf then none else before.itemAt? location := by
  have places : before.placeOf = files.placeOf := funext keeps.placeOf
  exact places ▸ removes.items location

theorem Removes.fileAt?_of_keeps {files : FileSystem} (keeps : Keeps files before)
    (removes : Removes folder entries before state) (location : Location) :
    state.files.fileAt? location =
      if location ∈ state.removed.map files.placeOf then none else before.fileAt? location := by
  unfold fileAt?
  rw [removes.items_of_keeps keeps]
  by_cases gone : location ∈ state.removed.map files.placeOf
  · rw [if_pos gone, if_pos gone]
  · rw [if_neg gone, if_neg gone]

theorem keeps_take (folder : Path) (state : CleanUp) (entry : ManifestEntry) :
    Keeps state.files (CleanUp.take folder state entry).files := by
  rcases take_cases folder state entry with ⟨kept, stopped, taken⟩ | ⟨-, files, removed, taken⟩
  · rw [taken]
    exact .refl _
  · rw [taken]
    have changes := changesOnly_removeFile state.files (folder.push entry.path)
    rw [removed] at changes
    exact changes.keeps

theorem keeps_foldl_take (folder : Path) (entries : List ManifestEntry) (state : CleanUp) :
    Keeps state.files (entries.foldl (CleanUp.take folder) state).files := by
  induction entries generalizing state with
  | nil => exact .refl _
  | cons entry rest ih => exact (keeps_take folder state entry).trans (ih _)

theorem keeps_run (folder : Path) (entries : List ManifestEntry) (before : FileSystem) :
    Keeps before (run folder entries before).files :=
  keeps_foldl_take folder entries { files := before }

/-- A clean-up without what it says of paths that it left alone. -/
def forgetKept (state : CleanUp) : CleanUp := { state with kept := [] }

theorem forgetKept_take (folder : Path) (state : CleanUp) (entry : ManifestEntry) :
    (take folder state entry).forgetKept =
      if entry.path.isContained then take folder state.forgetKept entry
      else state.forgetKept := by
  have sameStop : state.forgetKept.stopped = state.stopped := rfl
  have sameFiles : state.forgetKept.files = state.files := rfl
  unfold take
  rw [sameStop, sameFiles]
  by_cases stopped : state.stopped.isSome = true
  · rw [if_pos stopped, if_pos stopped, ite_self]
  · rw [if_neg stopped, if_neg stopped]
    cases contained : entry.path.isContained with
    | false => rfl
    | true =>
      simp only [Bool.not_true, Bool.false_eq_true, if_false, if_true]
      split_ifs
      · split
        · rfl
        · rfl
      · rfl

/-- The clean-up removes what it would remove if the paths that it leaves alone were not
recorded. -/
theorem forgetKept_foldl (folder : Path) (entries : List ManifestEntry) (state : CleanUp) :
    (entries.foldl (take folder) state).forgetKept =
      (entries.filter fun entry => entry.path.isContained).foldl (take folder)
        state.forgetKept := by
  induction entries generalizing state with
  | nil => rfl
  | cons entry rest ih =>
    rw [List.foldl_cons, ih, forgetKept_take]
    cases contained : entry.path.isContained with
    | false =>
      rw [List.filter_cons_of_neg (by simpa using contained)]
      rfl
    | true =>
      rw [List.filter_cons_of_pos (by simpa using contained)]
      rfl

theorem forgetKept_run (folder : Path) (entries : List ManifestEntry) (before : FileSystem) :
    (run folder entries before).forgetKept =
      run folder (entries.filter fun entry => entry.path.isContained) before :=
  forgetKept_foldl _ _ _

end CleanUp

/-- How a run ends after its round: a file that is no longer produced cannot be removed, or
the manifest cannot be saved after the clean-up, or it is. -/
theorem conclude_cases (graph : Graph) (folder : Path) (previous : Manifest)
    (round : RoundState Disk) :
    let done := conclude graph folder previous round
    let cleaned := CleanUp.run folder (previous.supersededBy done.manifest) round.sink.files
    (∃ file error, cleaned.stopped = some (file, error) ∧
        done.error = some (.notRemoved file error) ∧ done.files = cleaned.files) ∨
      cleaned.stopped = none ∧
        ((∃ error, done.error = some (.notSaved error) ∧
            done.manifest.save folder cleaned.files = (.error error, done.files)) ∨
          done.error = none ∧
            done.manifest.save folder cleaned.files = (.ok (), done.files)) := by
  obtain ⟨cleaned, cleans⟩ : ∃ cleaned, CleanUp.run folder (previous.supersededBy
      (Manifest.ofRound graph folder round.sink.outputs round.report)) round.sink.files = cleaned :=
    ⟨_, rfl⟩
  unfold conclude
  simp only [cleans]
  cases stopped : cleaned.stopped with
  | some stop => exact .inl ⟨stop.1, stop.2, rfl, rfl, rfl⟩
  | none =>
    cases saves : (Manifest.ofRound graph folder round.sink.outputs round.report).save folder
        cleaned.files with
    | mk result saved =>
      cases result with
      | error error => exact .inr ⟨rfl, .inl ⟨error, rfl, rfl⟩⟩
      | ok done => exact .inr ⟨rfl, .inr ⟨rfl, rfl⟩⟩

/-- A run that gets to its end has saved its manifest after the clean-up. -/
theorem save_of_conclude {graph : Graph} {folder : Path} {previous : Manifest}
    {round : RoundState Disk} (ended : (conclude graph folder previous round).error = none) :
    let done := conclude graph folder previous round
    done.manifest.save folder
        (CleanUp.run folder (previous.supersededBy done.manifest) round.sink.files).files =
      (.ok (), done.files) := by
  rcases conclude_cases graph folder previous round with
    ⟨file, error, -, failed, -⟩ | ⟨-, ⟨error, failed, -⟩ | ⟨-, saves⟩⟩
  · rw [ended] at failed
    cases failed
  · rw [ended] at failed
    cases failed
  · exact saves

/-- The records of a manifest whose paths go down from the folder. -/
def Manifest.contained (manifest : Manifest) : Manifest where
  version := manifest.version
  outputs := {
    entries := manifest.outputs.entries.filter fun pair => pair.2.path.isContained
    sorted := manifest.outputs.sorted.filter _ }

theorem Manifest.supersededBy_contained (manifest next : Manifest) :
    manifest.contained.supersededBy next =
      (manifest.supersededBy next).filter fun entry => entry.path.isContained := by
  unfold supersededBy contained
  rw [List.filter_map, List.filter_filter, List.filter_filter]
  congr 1
  apply List.filter_congr
  intro pair _
  exact Bool.and_comm _ _

/-- The file of a record lies strictly below the folder: its path goes on from there with
names alone, whatever comes between the slashes. -/
structure ManifestEntry.LeadsBelow (entry : ManifestEntry) (folder file : Path)
    (names : List String) : Prop where
  joined : file = folder.push entry.path
  relative : entry.path.isAbsolute = false
  components : entry.path.plainComponents = names.map .name
  descends : file.Descends folder names
  places : ∀ fs : FileSystem, fs.placeOf file = fs.placeOf folder ++ names ∧
    ∀ count, walk (fs.placeOf folder) (names.take count) = fs.placeOf folder ++ names.take count

theorem ManifestEntry.leadsBelow {entry : ManifestEntry}
    (contained : entry.path.isContained = true) (folder : Path) :
    entry.LeadsBelow folder (folder.push entry.path) entry.path.moves := by
  obtain ⟨relative, -, onward⟩ := Path.isContained_iff.mp contained
  have descends := Path.descends_of_isContained contained folder
  refine ⟨rfl, relative, ?_, descends, fun fs => ⟨placeOf_of_descends descends, ?_⟩⟩
  · rw [Path.plainComponents_eq, relative, Path.map_componentOfMove onward]
    rfl
  · intro count
    exact walk_names (fun member => onward (List.mem_of_mem_take member)) _

/-- What a run removes, whatever paths are recorded. -/
structure Regeneration.RemovesBelow (settings : Settings) (graph : Graph) (folder : Path)
    (previous : Manifest) (files : FileSystem) (done : Regeneration) : Prop where
  /-- Only files of superseded records are removed, and they lie below the folder. -/
  removed : ∀ file ∈ done.removed, ∃ entry ∈ previous.supersededBy done.manifest, ∃ names,
    entry.LeadsBelow folder file names
  /-- The clean-up after the round takes these files away and nothing else. -/
  cleaned : ∃ ended round,
    ({ settings } : Processor).process graph (Disk.filer folder) { files } =
        some (ended, round) ∧
      let cleaned := CleanUp.run folder (previous.supersededBy done.manifest) round.sink.files
      cleaned.removed = done.removed ∧ ∀ location, cleaned.files.itemAt? location =
        if location ∈ done.removed.map files.placeOf then none
        else round.sink.files.itemAt? location
  /-- Paths that say nothing, start at the root or go to the folder above anywhere are not
  contained. -/
  refused : ∀ path : Path,
    path.text = "" ∨ path.isAbsolute = true ∨ .parent ∈ path.components →
      path.isContained = false
  /-- Records with paths that are not contained change nothing of the run but what it says
  of them. -/
  others : regenerate settings graph folder previous.contained files =
    some { done with kept := [] }

/-- A run removes files strictly below its folder and no others, and it goes on as if the
records that it leaves alone were not there. -/
theorem regenerate_removes_below {settings : Settings} {graph : Graph} {folder : Path}
    {previous : Manifest} {files : FileSystem} {done : Regeneration}
    (ran : regenerate settings graph folder previous files = some done) :
    Regeneration.RemovesBelow settings graph folder previous files done := by
  obtain ⟨ended, round, ends, rfl⟩ := regenerate_eq_some_iff.mp ran
  have removes := CleanUp.removes_run folder
    (previous.supersededBy (conclude graph folder previous round).manifest) round.sink.files
  constructor
  case removed =>
    intro file listed
    obtain ⟨entry, member, contained, rfl⟩ := removes.removed file listed
    exact ⟨entry, member, _, entry.leadsBelow contained folder⟩
  case cleaned =>
    have changes := Processor.changesOnly_of_passes (Processor.passes_of_process ends)
    exact ⟨ended, round, ends, rfl, removes.items_of_keeps changes.keeps⟩
  case refused => exact fun path leaves => Path.isContained_eq_false leaves
  case others =>
    refine regenerate_eq_some_iff.mpr ⟨ended, round, ends, ?_⟩
    unfold conclude
    dsimp only
    rw [Manifest.supersededBy_contained, ← CleanUp.forgetKept_run]
    rfl

/-- A record of a file at some path. -/
def strayEntry (path : String) : ManifestEntry where
  path := ⟨path⟩
  template := "app.T"
  templateFingerprint := ""
  sources := NameMap.empty
  unresolved := []

/-- A manifest whose records lead everywhere. -/
def strayManifest : Manifest where
  version := Manifest.currentVersion
  outputs := {
    entries := [("a", strayEntry ""), ("b", strayEntry "/etc/B.java"),
      ("c", strayEntry "../C.java"), ("d", strayEntry "./app//./D.java"),
      ("e", strayEntry "app/.."), ("f", strayEntry "F.java")]
    sorted := by decide }

def strayFiles : FileSystem where
  entries := [(["etc"], .folder), (["etc", "B.java"], .file []), (["C.java"], .file []),
    (["out"], .folder), (["out", "app"], .folder), (["out", "app", "D.java"], .file []),
    (["out", "F.java"], .file [])]

/-- Of the records that lead everywhere those that lead below the folder are removed. -/
theorem regenerate_removes_below_stray :
    ∃ done, regenerate {} Graph.twoTemplates ⟨"out"⟩ strayManifest strayFiles = some done ∧
      Regeneration.RemovesBelow {} Graph.twoTemplates ⟨"out"⟩ strayManifest strayFiles done ∧
      done.removed = [⟨"out/./app//./D.java"⟩, ⟨"out/F.java"⟩] ∧
      done.kept = [⟨""⟩, ⟨"/etc/B.java"⟩, ⟨"../C.java"⟩, ⟨"app/.."⟩] ∧
      done.error.isNone = true ∧
      done.files.fileAt? ["etc", "B.java"] = some [] ∧ done.files.fileAt? ["C.java"] = some [] := by
  have computed : ∃ done ∈ regenerate {} Graph.twoTemplates ⟨"out"⟩ strayManifest strayFiles,
      done.removed = [⟨"out/./app//./D.java"⟩, ⟨"out/F.java"⟩] ∧
      done.kept = [⟨""⟩, ⟨"/etc/B.java"⟩, ⟨"../C.java"⟩, ⟨"app/.."⟩] ∧
      done.error.isNone = true ∧
      done.files.fileAt? ["etc", "B.java"] = some [] ∧ done.files.fileAt? ["C.java"] = some [] := by
    decide +kernel
  obtain ⟨done, ran, facts⟩ := computed
  exact ⟨done, ran, regenerate_removes_below ran, facts⟩

end Stencil
