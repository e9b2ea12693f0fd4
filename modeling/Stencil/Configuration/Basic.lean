import Stencil.Path
import Stencil.Settings
import Stencil.Text.Blank

/-!
# Configurations of projects

A configuration says how a project's templates are generated and where the
outputs go.  All of it has defaults, and flags of a single run take precedence.
-/

namespace Stencil

/-- The configuration of a project. -/
structure Configuration where
  projectName : Option String := none
  settings : Settings := {}
  /-- The folder of the outputs; seen from the folder of the configuration file,
  if it is relative. -/
  outputFolder : String := "./generated"
  deriving DecidableEq, Repr

/-- What a run can ask for besides its configuration. -/
structure Overrides where
  /-- Another folder for the outputs, seen from the working folder. -/
  outputFolder : Option String := none
  /-- Whether templates fail when a source is not there. -/
  strict : Bool := false
  /-- Whether names are escaped in generated literals. -/
  escape : Bool := false
  deriving DecidableEq, Repr

/-- What a configuration can lack. -/
inductive ConfigurationGap where
  | projectName
  | trigger
  | implSuffix
  | outputFolder
  deriving DecidableEq, Repr

def ConfigurationGap.message : ConfigurationGap → String
  | projectName => "Project name cannot be empty"
  | trigger => "generator.annotation cannot be empty"
  | implSuffix => "generator.impl_suffix cannot be empty"
  | outputFolder => "output.dir cannot be empty"

namespace Configuration

/-- The first thing that a configuration lacks.  A suffix can be blank, but not
empty; all else must not be blank. -/
def gap? (configuration : Configuration) : Option ConfigurationGap :=
  if configuration.projectName.any Text.isBlank then some .projectName
  else if Text.isBlank configuration.settings.trigger then some .trigger
  else if configuration.settings.implSuffix = "" then some .implSuffix
  else if Text.isBlank configuration.outputFolder then some .outputFolder
  else none

/-- The settings of a run. -/
def settingsFor (configuration : Configuration) (overrides : Overrides) : Settings :=
  { configuration.settings with
    lookup := if overrides.strict then .strict else configuration.settings.lookup
    escapeLiterals := overrides.escape || configuration.settings.escapeLiterals }

/-- The folder of the outputs of a run. -/
def outputPath (configuration : Configuration) (file : Path) (overrides : Overrides) : Path :=
  match overrides.outputFolder with
  | some folder => ⟨folder⟩
  | none =>
    let folder : Path := ⟨configuration.outputFolder⟩
    if folder.isAbsolute then folder else (file.parent?.getD ⟨"."⟩).push folder

end Configuration

end Stencil
