import Stencil.Configuration.Toml
import Stencil.FileSystem.Operations

/-!
# Configurations in files
-/

namespace Stencil

/-- Why there is no configuration. -/
inductive ConfigurationError where
  /-- The file could not be read. -/
  | unreadable (file : Path) (error : FileError)
  /-- The file holds no configuration. -/
  | malformed (file : Path)
  /-- The configuration lacks something. -/
  | incomplete (gap : ConfigurationGap)
  deriving DecidableEq, Repr

def ConfigurationError.message : ConfigurationError → String
  | unreadable file error => "Failed to read config file: " ++ file.text ++ ": " ++ error.message
  | malformed file => "Failed to parse config file: " ++ file.text
  | incomplete gap => gap.message

namespace Configuration

/-- The configuration that a text from a file holds. -/
def ofText (file : Path) (text : String) : Except ConfigurationError Configuration :=
  match parse? text with
  | none => .error (.malformed file)
  | some configuration =>
    match configuration.gap? with
    | some gap => .error (.incomplete gap)
    | none => .ok configuration

/-- The configuration in a file. -/
def load (fs : FileSystem) (file : Path) : Except ConfigurationError Configuration :=
  match fs.readText file with
  | .ok text => ofText file text
  | .error error => .error (.unreadable file error)

/-- The configuration in a file, or the defaults if there is no file. -/
def loadOrDefault (fs : FileSystem) (file : Path) : Except ConfigurationError Configuration :=
  if fs.has file then load fs file else .ok {}

end Configuration

end Stencil
