import Stencil.Manifest.Json

/-!
# Manifests in files

The manifest of a folder is a file in it.
-/

namespace Stencil

/-- Why a manifest could not be loaded or saved. -/
inductive ManifestError where
  | unreadable (file : Path) (error : FileError)
  | malformed (file : Path) (fault : Json.Fault)
  /-- The manifest has another version than the current one. -/
  | unsupported (file : Path) (version : Nat)
  /-- The folder could not be made. -/
  | noFolder (folder : Path) (error : FileError)
  | notWritten (file : Path) (error : FileError)

/-- The wording of an error. -/
def ManifestError.message : ManifestError → String
  | unreadable file error => "Failed to read manifest: " ++ file.text ++ ": " ++ error.message
  | malformed file fault => "Failed to parse manifest: " ++ file.text ++ ": " ++ fault.message
  | unsupported file version =>
    "Unsupported manifest version " ++ toString version ++ " in " ++ file.text
  | noFolder folder error =>
    "Failed to create output directory: " ++ folder.text ++ ": " ++ error.message
  | notWritten file error => "Failed to write manifest: " ++ file.text ++ ": " ++ error.message

namespace Manifest

/-- The name of the file of a manifest. -/
def fileName : String := "aptgen-manifest.json"

/-- The path of the manifest of a folder. -/
def pathIn (folder : Path) : Path := folder.push ⟨fileName⟩

/-- The manifest that a text from a file holds. -/
def ofText (file : Path) (text : String) : Except ManifestError Manifest :=
  match parse text with
  | .error fault => .error (.malformed file fault)
  | .ok manifest =>
    if manifest.version = currentVersion then .ok manifest
    else .error (.unsupported file manifest.version)

/-- The manifest of a folder, if there is one. -/
def load (fs : FileSystem) (folder : Path) : Except ManifestError (Option Manifest) :=
  let file := pathIn folder
  if fs.has file then
    match fs.readText file with
    | .error error => .error (.unreadable file error)
    | .ok text => (ofText file text).map some
  else .ok none

/-- Saves the manifest of a folder, making the folder if it is missing. -/
def save (manifest : Manifest) (folder : Path) (fs : FileSystem) :
    Except ManifestError Unit × FileSystem :=
  match FileSystem.ensureFolders folder fs with
  | (.error error, after) => (.error (.noFolder folder error), after)
  | (.ok (), after) =>
    match FileSystem.writeFile (pathIn folder) (Text.octets manifest.print) after with
    | (.error error, last) => (.error (.notWritten (pathIn folder) error), last)
    | (.ok (), last) => (.ok (), last)

end Manifest

end Stencil
