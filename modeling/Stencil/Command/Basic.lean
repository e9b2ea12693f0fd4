import Stencil.Configuration.Load
import Stencil.Graph.Load
import Stencil.Regeneration

/-!
# Commands

A command works on a file system.  It prints lines, succeeds or fails, and
leaves the file system.
-/

namespace Stencil

/-- What all commands are told. -/
structure Invocation where
  /-- The file of the configuration. -/
  configuration : Path := ⟨"aptgen.toml"⟩
  /-- The file of the document. -/
  graph : Path := ⟨"graph.json"⟩
  overrides : Overrides := {}
  /-- Whether results are printed as JSON. -/
  json : Bool := false
  /-- Whether lines are styled. -/
  styled : Bool := false
  deriving DecidableEq, Repr

/-- Why a command fails. -/
inductive CommandError where
  | configuration (error : ConfigurationError)
  | configurationExists (file : Path)
  | configurationNotWritten (file : Path) (error : FileError)
  | graph (file : Path) (error : GraphError)
  | manifest (error : ManifestError)
  | notRemoved (file : Path) (error : FileError)
  /-- Some templates got no output. -/
  | failedTemplates (count : Nat)

def CommandError.message : CommandError → String
  | configuration error => error.message
  | configurationExists file =>
    "Configuration file already exists: " ++ file.text ++
      "\nUse a different path or remove the existing file."
  | configurationNotWritten file error =>
    "Failed to write config file: " ++ file.text ++ ": " ++ error.message
  | graph file error =>
    "Failed to load declaration graph: " ++ file.text ++ ": " ++ error.message
  | manifest error => error.message
  | notRemoved file error =>
    "Failed to remove stale output: " ++ file.text ++ ": " ++ error.message
  | failedTemplates count => toString count ++ " template(s) failed to generate"

/-- What a command did. -/
structure Outcome where
  lines : List String
  error : Option CommandError := none
  files : FileSystem

namespace Outcome

/-- A failure that leaves all files as they are. -/
def failed (error : CommandError) (files : FileSystem) : Outcome :=
  { lines := [], error := some error, files }

/-- An outcome with lines printed before. -/
def after (lines : List String) (outcome : Outcome) : Outcome :=
  { outcome with lines := lines ++ outcome.lines }

def output (outcome : Outcome) : String :=
  String.join (outcome.lines.map fun line => line ++ "\n")

end Outcome

end Stencil
