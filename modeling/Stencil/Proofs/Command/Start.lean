import Stencil.Command.Start
import Stencil.Proofs.Configuration
import Stencil.Proofs.FileSystem.Places
import Stencil.Proofs.Text.Utf8

/-!
# The file of a new project

A new project is named like its folder, whatever that name is, and its configuration is
written without a look at the name.  What is written says the same when it is read, but a
blank name is refused only then.
-/

namespace Stencil

open FileSystem

namespace Configuration

variable {file : Path} {text : String} {configuration : Configuration}

theorem load_of_writeFile {before after : FileSystem}
    (writes : writeFile file (Text.octets text) before = (.ok (), after)) :
    load after file = ofText file text := by
  have written : after.readText file = .ok text := by
    unfold readText
    rw [find_of_writeFile writes]
    simp only [Text.decode_octets]
  unfold load
  rw [written]

theorem ofText_of_gap {gap : ConfigurationGap} (read : parse? text = some configuration)
    (lacks : configuration.gap? = some gap) : ofText file text = .error (.incomplete gap) := by
  unfold ofText
  simp only [read, lacks]

theorem ofText_of_complete (read : parse? text = some configuration)
    (complete : configuration.gap? = none) : ofText file text = .ok configuration := by
  unfold ofText
  simp only [read, complete]

end Configuration

namespace Command

variable {print : Configuration → String}

/-- The configuration of a new project is refused if the name of its folder is blank. -/
theorem load_initialConfiguration {file : Path} {before after : FileSystem} {working : Location}
    (reads : Configuration.ReadsBack print)
    (writes : writeFile file (Text.octets (print (initialConfiguration working))) before =
      (.ok (), after)) :
    Configuration.load after file =
      if Text.isBlank (working.getLast?.getD defaultProjectName) then
        .error (.incomplete .projectName)
      else .ok { projectName := some (working.getLast?.getD defaultProjectName) } := by
  have complete : Text.isBlank ({} : Settings).trigger = false ∧
      Text.isBlank ({} : Configuration).outputFolder = false := by decide
  rw [Configuration.load_of_writeFile writes]
  by_cases blank : Text.isBlank (working.getLast?.getD defaultProjectName) = true
  · rw [if_pos blank]
    apply Configuration.ofText_of_gap (reads _)
    simp [Configuration.gap?, initialConfiguration, blank]
  · rw [if_neg blank]
    apply Configuration.ofText_of_complete (reads _)
    simp [Configuration.gap?, initialConfiguration, blank, complete]

/-- Just the file of a configuration is new.  It is read as the defaults with a name, but
refused if the name is blank. -/
structure Created (file : Path) (place : Location) (name : String) (files : FileSystem)
    (outcome : Outcome) : Prop where
  succeeds : outcome.error = none
  changes : ChangesOnly [place] files outcome.files
  loads : Configuration.load outcome.files file =
    if Text.isBlank name then .error (.incomplete .projectName)
    else .ok { projectName := some name }

/-- What starting a project of a name does with the file of its configuration. -/
structure Started (file : Path) (name : String) (files : FileSystem) (outcome : Outcome) :
    Prop where
  /-- Nothing that is there is replaced. -/
  there : files.has file = true → outcome = .failed (.configurationExists file) files
  /-- Nothing is written where no file can be. -/
  nowhere : files.has file = false → (∀ folder last, ¬ Points files file folder last) →
    ∃ error, outcome = .failed (.configurationNotWritten file error) files
  written : files.has file = false → ∀ {folder last}, Points files file folder last →
    Created file (folder ++ [last]) name files outcome

theorem writeFile_of_nowhere {files : FileSystem} {path : Path}
    (nowhere : ∀ folder last, ¬ Points files path folder last) (content : List UInt8) :
    ∃ error, writeFile path content files = (.error error, files) := by
  cases writes : writeFile path content files with
  | mk result after =>
      cases result with
      | error error =>
          rw [writeFile_error writes]
          exact ⟨error, rfl⟩
      | ok =>
          obtain ⟨folder, last, points, -⟩ := points_of_writeFile writes
          exact absurd points (nowhere folder last)

theorem created_startWith {run : Invocation} {files : FileSystem} {folder : Location}
    {last : String} (reads : Configuration.ReadsBack print)
    (missing : files.has run.configuration = false)
    (points : Points files run.configuration folder last) :
    Created run.configuration (folder ++ [last]) (files.working.getLast?.getD defaultProjectName)
      files (startWith print run files) := by
  have nothing := points.has_eq_false_iff.mp missing
  have writes := points.writeFile_eq (by simp [nothing])
    (Text.octets (print (initialConfiguration files.working)))
  have changes := changesOnly_writeFile files run.configuration
    (Text.octets (print (initialConfiguration files.working)))
  rw [points.placeOf_eq, writes] at changes
  unfold startWith
  simp only [missing, writes, Bool.false_eq_true, if_false]
  exact ⟨rfl, changes, load_initialConfiguration reads writes⟩

/-- Starting a project keeps a file that is there.  Else it writes one wherever a path
leads to a name in a folder; this is read as the defaults with the name of the working
folder, and refused if that name is blank.  So it is with each way to print texts that is
read back. -/
theorem started_startWith (print : Configuration → String)
    (reads : Configuration.ReadsBack print) (run : Invocation) (files : FileSystem) :
    Started run.configuration (files.working.getLast?.getD defaultProjectName) files
      (startWith print run files) := by
  constructor
  case there =>
    intro there
    unfold startWith
    rw [if_pos there]
  case nowhere =>
    intro missing nowhere
    obtain ⟨error, fails⟩ := writeFile_of_nowhere nowhere
      (Text.octets (print (initialConfiguration files.working)))
    refine ⟨error, ?_⟩
    unfold startWith
    simp only [missing, fails, Bool.false_eq_true, if_false]
  case written =>
    intro missing folder last points
    exact created_startWith reads missing points

/-- A folder with spaces and letters of two bytes in its name. -/
def namedFolder : FileSystem :=
  { entries := [(["Größe = 1 # x"], .folder)], working := ["Größe = 1 # x"] }

theorem started_startWith_namedFolder :
    Configuration.ReadsBack Configuration.print ∧
      namedFolder.has ⟨"aptgen.toml"⟩ = false ∧
      Configuration.load (startWith Configuration.print {} namedFolder).files ⟨"aptgen.toml"⟩ =
        .ok { projectName := some "Größe = 1 # x" } := by
  have reads := Configuration.readsBack_print
  have started := started_startWith Configuration.print reads {} namedFolder
  have missing : namedFolder.has ⟨"aptgen.toml"⟩ = false := by decide
  have points : Points namedFolder ⟨"aptgen.toml"⟩ ["Größe = 1 # x"] "aptgen.toml" :=
    ⟨by rfl, by decide⟩
  have created := started.written missing points
  exact ⟨reads, missing, created.loads.trans (if_neg (by decide))⟩

/-- A folder with a blank name. -/
def blankFolder : FileSystem := { entries := [([" "], .folder)], working := [" "] }

/-- The file that is written in a folder with a blank name is not accepted. -/
theorem load_start_blankFolder :
    blankFolder.has ⟨"aptgen.toml"⟩ = false ∧ (start {} blankFolder).error = none ∧
      Configuration.load (start {} blankFolder).files ⟨"aptgen.toml"⟩ =
        .error (.incomplete .projectName) := by
  have missing : blankFolder.has ⟨"aptgen.toml"⟩ = false := by decide
  have points : Points blankFolder ⟨"aptgen.toml"⟩ [" "] "aptgen.toml" := ⟨by rfl, by decide⟩
  have created := @created_startWith _ {} blankFolder _ _ Configuration.readsBack_print missing
    points
  exact ⟨missing, created.succeeds, created.loads.trans (if_pos (by decide))⟩

end Command

end Stencil
