import Stencil.Text.Utf8

/-!
# Errors of file operations
-/

namespace Stencil

/-- Why a file operation fails. -/
inductive FileError where
  | notFound
  | busy
  | alreadyExists
  | notAFolder
  | isAFolder
  | nameTooLong
  /-- A name holds a zero character. -/
  | zeroInName
  /-- A file that is read as text holds none. -/
  | notText
  /-- What was written as text is none. -/
  | undecodable (error : Text.Utf8Error)
  /-- An output is created a second time. -/
  | recreated (name : String)
  | diskFull
  deriving DecidableEq, Repr

namespace FileError

def message : FileError → String
  | notFound => "No such file or directory (os error 2)"
  | busy => "Device or resource busy (os error 16)"
  | alreadyExists => "File exists (os error 17)"
  | notAFolder => "Not a directory (os error 20)"
  | isAFolder => "Is a directory (os error 21)"
  | nameTooLong => "File name too long (os error 36)"
  | zeroInName => "file name contained an unexpected NUL byte"
  | notText => "stream did not contain valid UTF-8"
  | undecodable error => error.message
  | recreated name => "attempt to recreate a file for type " ++ name
  | diskFull => "disk full"

end FileError

end Stencil
