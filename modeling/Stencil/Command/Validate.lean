import Stencil.Command.Basic
import Stencil.Console.Message

/-!
# Checking a configuration
-/

namespace Stencil.Command

open Console

def validateLines (styled : Bool) (file : Path) (configuration : Configuration) : List String :=
  let settings := configuration.settings
  let project := (configuration.projectName.map fun name => info styled ("project: " ++ name)).toList
  [success styled (file.text ++ " is valid")] ++ project ++ [
    info styled ("annotation: " ++ settings.trigger),
    info styled ("lookup: " ++ settings.lookup.title),
    info styled ("escape literals: " ++ if settings.escapeLiterals then "true" else "false"),
    info styled ("output: " ++ configuration.outputFolder)]

def validate (run : Invocation) (files : FileSystem) : Outcome :=
  match Configuration.load files run.configuration with
  | .error error => .failed (.configuration error) files
  | .ok configuration =>
    { lines := validateLines run.styled run.configuration configuration, files }

end Stencil.Command
