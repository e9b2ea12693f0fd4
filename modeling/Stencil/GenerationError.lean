import Stencil.FileSystem.Error
import Stencil.Name

/-!
# Why a template gets no output
-/

namespace Stencil

/-- Why a template gets no output. -/
inductive GenerationError where
  /-- The template is no declaration of the graph. -/
  | unknownTemplate (template : QualifiedName)
  /-- A member of the template names a declaration that is not there; perhaps
  another one was meant. -/
  | unresolvedSource (template : QualifiedName) (member : String) (source : QualifiedName)
      (suggestion : Option String)
  /-- The output could not be written. -/
  | notWritten (output : QualifiedName) (error : FileError)
  deriving DecidableEq, Repr

def GenerationError.message : GenerationError → String
  | unknownTemplate template => "Template " ++ template ++ " is not a known declaration"
  | unresolvedSource template member source suggestion =>
    template ++ "." ++ member ++ "(): no declaration named " ++ source ++
      match suggestion with
      | some name => " (did you mean " ++ name ++ "?)"
      | none => ""
  | notWritten output error => "Failed to write " ++ output ++ ": " ++ error.message

end Stencil
