import Stencil.Declaration.Json
import Stencil.FileSystem.Operations
import Stencil.Graph.Basic

/-!
# Graphs from documents in files
-/

namespace Stencil

/-- Why there is no graph. -/
inductive GraphError where
  /-- The document could not be read. -/
  | unreadable (file : String) (error : FileError)
  /-- The text is no document. -/
  | malformed (file : String) (fault : Json.Fault)
  /-- Two declarations have the same qualified name. -/
  | duplicate (name : QualifiedName)

/-- The wording of an error. -/
def GraphError.message : GraphError → String
  | unreadable file error =>
    "Parse error in " ++ file ++ ": failed to read file: " ++ error.message
  | malformed file fault => "Parse error in " ++ file ++ ": " ++ fault.message
  | duplicate name => "Duplicate declaration: " ++ name

namespace Graph

/-- The graph of the document that a text holds; `file` names the text in
messages. -/
def ofText (file text : String) : Except GraphError Graph :=
  match Document.parse text with
  | .error fault => .error (.malformed file fault)
  | .ok document =>
    match ofDocument document with
    | .ok graph => .ok graph
    | .error name => .error (.duplicate name)

/-- The graph of the document in a file. -/
def load (fs : FileSystem) (file : Path) : Except GraphError Graph :=
  match fs.readText file with
  | .ok text => ofText file.text text
  | .error error => .error (.unreadable file.text error)

end Graph

end Stencil
