import Stencil.FileSystem.Basic
import Stencil.FileSystem.Error
import Stencil.Path

/-!
# Where paths lead

A path is followed from the root or from the working folder, name by name.
All names before the last must lead into folders; whether something has the
last name is left open, because a path can also say where something is to be
made.
-/

namespace Stencil

/-- Where a path leads, before its last name is looked up. -/
inductive Spot where
  /-- To a folder, without a name at the end of the path. -/
  | folder (location : Location)
  /-- To a name in a folder; a slash at the end of the path asks for a folder of
  this name. -/
  | entry (folder : Location) (name : String) (slash : Bool)
  deriving DecidableEq, Repr

namespace FileSystem

/-- The number of octets that a name can have. -/
def longestName : Nat := 255

/-- The number of octets that a path can have. -/
def longestPath : Nat := 4095

/-- What has a name in a folder. -/
def lookup? (fs : FileSystem) (folder : Location) (name : String) :
    Except FileError (Option Item) :=
  if longestName < name.utf8ByteSize then .error .nameTooLong
  else .ok (fs.itemAt? (folder ++ [name]))

/-- Enters a folder by its name; two dots lead to the folder above, which for the
root is the root. -/
def enter (fs : FileSystem) (folder : Location) (name : String) : Except FileError Location :=
  if name = "." then .ok folder
  else if name = ".." then .ok folder.dropLast
  else
    match fs.lookup? folder name with
    | .error error => .error error
    | .ok none => .error .notFound
    | .ok (some (.file _)) => .error .notAFolder
    | .ok (some .folder) => .ok (folder ++ [name])

/-- Enters folders in turn. -/
def enterAll (fs : FileSystem) : Location → List String → Except FileError Location
  | folder, [] => .ok folder
  | folder, name :: names =>
    match fs.enter folder name with
    | .ok inner => fs.enterAll inner names
    | .error error => .error error

/-- The spot of the last name of a path in a folder. -/
def spotIn (folder : Location) (name : String) (slash : Bool) : Spot :=
  if name = "." then .folder folder
  else if name = ".." then .folder folder.dropLast
  else .entry folder name slash

/-- Follows a path to its last name. -/
def follow (fs : FileSystem) (path : Path) : Except FileError Spot :=
  let pieces := Text.split '/' path.text
  let names := pieces.filter (· ≠ "")
  let start := if path.isAbsolute then [] else fs.working
  if path.text.toList.contains '\x00' then .error .zeroInName
  else if path.text = "" then .error .notFound
  else if longestPath < path.text.utf8ByteSize then .error .nameTooLong
  else
    match names.getLast? with
    | none => .ok (.folder start)
    | some last =>
      match fs.enterAll start names.dropLast with
      | .ok folder => .ok (spotIn folder last (pieces.getLast? == some ""))
      | .error error => .error error

end FileSystem

end Stencil
