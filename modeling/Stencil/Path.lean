import Stencil.Name

/-!
# Paths as text

Paths are texts with slashes.  What a path names is seen by its components:
empty pieces between slashes and pieces that are a single dot do not count,
except for a dot that starts a relative path.  Operations keep the text of
what they do not touch.
-/

namespace Stencil

/-- A path, as it is written. -/
structure Path where
  text : String
  deriving DecidableEq, Repr

/-- A component of a path. -/
inductive Component where
  /-- The root of an absolute path. -/
  | root
  /-- The dot that starts a relative path. -/
  | current
  /-- The step to the folder above. -/
  | parent
  /-- A step to what has a name in a folder. -/
  | name (name : String)
  deriving DecidableEq, Repr

namespace Path

/-- A piece between slashes, and the component that it is. -/
abbrev Piece := List Char × Option Component

/-- The component that a piece is; `leads` says that the piece starts a relative
path. -/
def componentOf (leads : Bool) (piece : List Char) : Option Component :=
  if piece = [] then none
  else if piece = ['.'] then (if leads then some .current else none)
  else if piece = ['.', '.'] then some .parent
  else some (.name (String.ofList piece))

/-- Whether a path starts at the root. -/
def isAbsolute (path : Path) : Bool := path.text.toList.head? == some '/'

/-- The pieces of a path after its root. -/
def pieces (path : Path) : List Piece :=
  let marked (leads : Bool) (piece : List Char) : Piece := (piece, componentOf leads piece)
  match Text.pieces '/' (if path.isAbsolute then path.text.toList.drop 1 else path.text.toList) with
  | [] => []
  | first :: rest => marked (!path.isAbsolute) first :: rest.map (marked false)

/-- The components of a path. -/
def components (path : Path) : List Component :=
  (if path.isAbsolute then [.root] else []) ++ path.pieces.filterMap (·.2)

/-- Pieces without those at the front that are no components. -/
def trimStart (pieces : List Piece) : List Piece := pieces.dropWhile (·.2.isNone)

/-- The path with some pieces. -/
def ofPieces (absolute : Bool) (pieces : List Piece) : Path :=
  ⟨String.ofList ((if absolute then ['/'] else []) ++ Text.join ['/'] (pieces.map (·.1)))⟩

/-- The pieces of a path from the last component to the first piece. -/
def piecesBack (path : Path) : List Piece := trimStart path.pieces.reverse

/-- The path without its last component; neither the empty path nor the root has
one. -/
def parent? (path : Path) : Option Path :=
  match path.piecesBack with
  | [] => none
  | _ :: rest => some (ofPieces path.isAbsolute (trimStart rest).reverse)

/-- The name that a path ends with. -/
def fileName? (path : Path) : Option String :=
  match path.piecesBack with
  | (_, some (.name name)) :: _ => some name
  | _ => none

/-- A path followed by another; an absolute path replaces what it follows. -/
def push (path other : Path) : Path :=
  if other.isAbsolute then other
  else if path.text = "" || path.text.toList.getLast? == some '/' then ⟨path.text ++ other.text⟩
  else ⟨path.text ++ "/" ++ other.text⟩

/-- The part of a file name before its last dot, unless nothing stands before
it. -/
def stem (name : List Char) : List Char :=
  match Text.splitLast? '.' name with
  | some (before, _) => if before = [] then name else before
  | none => name

/-- A path with another extension.  Without an extension to set, the one there is
dropped; a path that ends with no name stays as it is. -/
def setExtension (path : Path) (extension : String) : Path :=
  match path.piecesBack with
  | (piece, some (.name _)) :: rest =>
    let ending := if extension = "" then [] else '.' :: extension.toList
    ofPieces path.isAbsolute ((stem piece ++ ending, none) :: rest).reverse
  | _ => path

/-- A path with another name at its end. -/
def withFileName (path : Path) (name : String) : Path :=
  match path.fileName? with
  | some _ => (path.parent?.getD path).push ⟨name⟩
  | none => path.push ⟨name⟩

/-- The pieces after some components, if the pieces start with them. -/
def dropComponents? : List Component → List Piece → Option (List Piece)
  | [], pieces => some pieces
  | _ :: _, [] => none
  | component :: components, (_, found) :: pieces =>
    match found with
    | none => dropComponents? (component :: components) pieces
    | some other =>
      if component = other then dropComponents? components pieces else none

/-- The part of a path after a base that it starts with. -/
def stripBase? (path base : Path) : Option Path :=
  match base.components with
  | [] => some (ofPieces path.isAbsolute path.piecesBack.reverse)
  | .root :: components =>
    if path.isAbsolute then
      (dropComponents? components path.pieces).map fun rest =>
        ofPieces false (trimStart (trimStart rest).reverse).reverse
    else
      none
  | components =>
    if path.isAbsolute then
      none
    else
      (dropComponents? components path.pieces).map fun rest =>
        ofPieces false (trimStart (trimStart rest).reverse).reverse

/-- The paths of the folders above, the nearest first, given the pieces from the
last one back; neither the empty path nor the root is among them. -/
def foldersBack (absolute : Bool) : List Piece → List Path
  | [] => []
  | (piece, found) :: rest =>
    match found with
    | none => foldersBack absolute rest
    | some component =>
      ofPieces absolute ((piece, some component) :: rest).reverse :: foldersBack absolute rest

/-- A path and those of the folders above it, the nearest first; neither the
empty path nor the root is among them. -/
def withFolders (path : Path) : List Path :=
  match path.piecesBack with
  | [] => []
  | _ :: rest => path :: foldersBack path.isAbsolute rest

/-- Whether a path names something below the folder that it is taken from, going
only downwards. -/
def isContained (path : Path) : Bool :=
  path.fileName?.isSome &&
    path.components.all fun component =>
      match component with
      | .name _ | .current => true
      | .root | .parent => false

/-- The path of the source of a qualified name: a folder for every piece of the
name before the last, and an extension. -/
def ofQualifiedName (name : QualifiedName) (extension : String) : Path :=
  let start : Path := ⟨""⟩
  let path := (Text.split '.' name).foldl (fun path piece => path.push ⟨piece⟩) start
  path.setExtension extension

end Path

end Stencil
