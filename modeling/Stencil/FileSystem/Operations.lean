import Stencil.FileSystem.Action
import Stencil.FileSystem.Spot

/-!
# Operations on files and folders

Every operation follows a path and then changes what is at one location, or
fails and changes nothing.  Only the creation of several folders can fail
after some of them have been made.
-/

namespace Stencil.FileSystem

/-- What a path leads to. -/
def find (fs : FileSystem) (path : Path) : Except FileError Item :=
  match fs.follow path with
  | .error error => .error error
  | .ok (.folder _) => .ok .folder
  | .ok (.entry folder name slash) =>
    match fs.lookup? folder name with
    | .error error => .error error
    | .ok none => .error .notFound
    | .ok (some item) => if slash && item ≠ .folder then .error .notAFolder else .ok item

def has (fs : FileSystem) (path : Path) : Bool := (fs.find path).toBool

def hasFolder (fs : FileSystem) (path : Path) : Bool :=
  match fs.find path with
  | .ok .folder => true
  | _ => false

def readText (fs : FileSystem) (path : Path) : Except FileError String :=
  match fs.find path with
  | .error error => .error error
  | .ok .folder => .error .isAFolder
  | .ok (.file content) =>
    match Text.decode content with
    | .ok text => .ok text
    | .error _ => .error .notText

/-- Writes a file, replacing one that is there. -/
def writeFile (path : Path) (content : List UInt8) : Action FileSystem Unit := fun fs =>
  match fs.follow path with
  | .error error => (.error error, fs)
  | .ok (.folder _) => (.error .isAFolder, fs)
  | .ok (.entry folder name slash) =>
    if slash then (.error .isAFolder, fs)
    else
      match fs.lookup? folder name with
      | .error error => (.error error, fs)
      | .ok (some .folder) => (.error .isAFolder, fs)
      | .ok _ => (.ok (), fs.put (folder ++ [name]) (.file content))

/-- Makes a folder where nothing is. -/
def makeFolder (path : Path) : Action FileSystem Unit := fun fs =>
  match fs.follow path with
  | .error error => (.error error, fs)
  | .ok (.folder _) => (.error .alreadyExists, fs)
  | .ok (.entry folder name _) =>
    match fs.lookup? folder name with
    | .error error => (.error error, fs)
    | .ok (some _) => (.error .alreadyExists, fs)
    | .ok none => (.ok (), fs.put (folder ++ [name]) .folder)

def ensureFolder (path : Path) : Action FileSystem Unit := fun fs =>
  match makeFolder path fs with
  | (.error error, after) =>
    if error = .alreadyExists && after.hasFolder path then (.ok (), after)
    else (.error error, after)
  | result => result

/-- Makes the first of some folders unless it is there, where each of them lies in
the next one.  Those that are missing are made before what lies in them. -/
def ensureNested : List Path → Action FileSystem Unit
  | [] => Action.done ()
  | path :: outer => fun fs =>
    match ensureFolder path fs with
    | (.error .notFound, after) =>
      (ensureNested outer).andThen (fun _ => ensureFolder path) after
    | result => result

/-- Makes a folder and those around it, as far as they are missing. -/
def ensureFolders (path : Path) : Action FileSystem Unit := ensureNested path.withFolders

def removeFile (path : Path) : Action FileSystem Unit := fun fs =>
  match fs.follow path with
  | .error error => (.error error, fs)
  | .ok (.folder _) => (.error .isAFolder, fs)
  | .ok (.entry folder name slash) =>
    match fs.lookup? folder name with
    | .error error => (.error error, fs)
    | .ok none => (.error .notFound, fs)
    | .ok (some .folder) => (.error .isAFolder, fs)
    | .ok (some (.file _)) =>
      if slash then (.error .notAFolder, fs) else (.ok (), fs.erase (folder ++ [name]))

/-- Moves a file, replacing one that is there. -/
def moveFile (source target : Path) : Action FileSystem Unit := fun fs =>
  match fs.follow source, fs.follow target with
  | .error error, _ => (.error error, fs)
  | _, .error error => (.error error, fs)
  | .ok (.entry sourceFolder sourceName sourceSlash),
    .ok (.entry targetFolder targetName targetSlash) =>
    match fs.lookup? sourceFolder sourceName, fs.lookup? targetFolder targetName with
    | .error error, _ => (.error error, fs)
    | .ok none, _ => (.error .notFound, fs)
    | _, .error error => (.error error, fs)
    | .ok (some .folder), _ => (.error .isAFolder, fs)
    | .ok (some (.file content)), .ok found =>
      if sourceSlash || targetSlash then (.error .notAFolder, fs)
      else if found = some .folder then (.error .isAFolder, fs)
      else
        (.ok (), (fs.erase (sourceFolder ++ [sourceName])).put (targetFolder ++ [targetName])
          (.file content))
  | _, _ => (.error .busy, fs)

end Stencil.FileSystem
