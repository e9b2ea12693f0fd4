import Stencil.Manifest.Storage

/-!
# Regenerating a folder of outputs

A run generates and writes the outputs of a round, removes the files of outputs
that an earlier run recorded and this one no longer has, and records what is
there now.  It stops when a file cannot be removed or the manifest cannot be
saved.  Recorded paths that lead out of the folder are left alone.
-/

namespace Stencil

/-- Why a run stops early. -/
inductive RegenerationError where
  /-- A file could not be removed. -/
  | notRemoved (file : Path) (error : FileError)
  | notSaved (error : ManifestError)

/-- The removal of superseded outputs on its way. -/
structure CleanUp where
  files : FileSystem
  /-- The files that were removed. -/
  removed : List Path := []
  /-- The recorded paths that are left alone. -/
  kept : List Path := []
  /-- The file that could not be removed. -/
  stopped : Option (Path × FileError) := none

namespace CleanUp

/-- Removes the file of a superseded output, if it is there. -/
def take (folder : Path) (state : CleanUp) (entry : ManifestEntry) : CleanUp :=
  if state.stopped.isSome then state
  else if !entry.path.isContained then { state with kept := state.kept ++ [entry.path] }
  else
    let file := folder.push entry.path
    if state.files.has file then
      match FileSystem.removeFile file state.files with
      | (.ok (), files) => { state with files, removed := state.removed ++ [file] }
      | (.error error, files) => { state with files, stopped := some (file, error) }
    else state

/-- Removes the files of superseded outputs. -/
def run (folder : Path) (superseded : List ManifestEntry) (files : FileSystem) : CleanUp :=
  superseded.foldl (take folder) { files }

end CleanUp

/-- What a run did. -/
structure Regeneration where
  report : RoundReport
  diagnostics : List Diagnostic
  /-- The record of the outputs that the run committed. -/
  manifest : Manifest
  removed : List Path
  kept : List Path
  error : Option RegenerationError
  files : FileSystem

/-- Removes what the outputs of a round supersede, and records these outputs. -/
def conclude (graph : Graph) (folder : Path) (previous : Manifest) (round : RoundState Disk) :
    Regeneration :=
  let manifest := Manifest.ofRound graph folder round.sink.outputs round.report
  let cleaned := CleanUp.run folder (previous.supersededBy manifest) round.sink.files
  let (error, files) :=
    match cleaned.stopped with
    | some (file, error) => (some (.notRemoved file error), cleaned.files)
    | none =>
      match manifest.save folder cleaned.files with
      | (.error error, files) => (some (.notSaved error), files)
      | (.ok (), files) => (none, files)
  { report := round.report, diagnostics := round.diagnostics, manifest
    removed := cleaned.removed, kept := cleaned.kept, error, files }

/-- Runs a round on a graph, with the outputs in a folder whose earlier outputs a
manifest records. -/
def regenerate (settings : Settings) (graph : Graph) (folder : Path) (previous : Manifest)
    (files : FileSystem) : Option Regeneration :=
  (Processor.process { settings } graph (Disk.filer folder) { files }).map
    fun (_, round) => conclude graph folder previous round

/-- A run ends exactly if its round does. -/
theorem regenerate_eq_some_iff {settings : Settings} {graph : Graph} {folder : Path}
    {previous : Manifest} {files : FileSystem} {done : Regeneration} :
    regenerate settings graph folder previous files = some done ↔
      ∃ ended round,
        Processor.process { settings } graph (Disk.filer folder) { files } =
          some (ended, round) ∧ done = conclude graph folder previous round := by
  unfold regenerate
  rw [Option.map_eq_some_iff]
  constructor
  · rintro ⟨⟨ended, round⟩, ends, rfl⟩
    exact ⟨ended, round, ends, rfl⟩
  · rintro ⟨ended, round, ends, rfl⟩
    exact ⟨(ended, round), ends, rfl⟩

end Stencil
