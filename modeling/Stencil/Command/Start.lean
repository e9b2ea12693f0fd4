import Stencil.Command.Basic
import Stencil.Console.Message

/-!
# Starting a project
-/

namespace Stencil.Command

open Console

/-- The name of a project whose folder has none. -/
def defaultProjectName : String := "aptgen-project"

/-- The configuration of a new project, named like its folder. -/
def initialConfiguration (working : Location) : Configuration :=
  { projectName := some (working.getLast?.getD defaultProjectName) }

def startLines (styled : Bool) (file : Path) : List String := [
  success styled ("Created " ++ file.text),
  "",
  strong styled "Next steps:",
  "  1. Export your declarations as a JSON graph",
  "  2. Check what will be generated: " ++ colored styled .cyan "aptgen inspect <graph.json>",
  "  3. Generate: " ++ colored styled .cyan "aptgen generate <graph.json>"]

/-- Starts a project whose configuration is printed by `print`. -/
def startWith (print : Configuration → String) (run : Invocation) (files : FileSystem) :
    Outcome :=
  let file := run.configuration
  if files.has file then .failed (.configurationExists file) files
  else
    let text := print (initialConfiguration files.working)
    match FileSystem.writeFile file (Text.octets text) files with
    | (.error error, files) => .failed (.configurationNotWritten file error) files
    | (.ok (), files) => { lines := startLines run.styled file, files }

def start (run : Invocation) (files : FileSystem) : Outcome :=
  startWith Configuration.print run files

end Stencil.Command
