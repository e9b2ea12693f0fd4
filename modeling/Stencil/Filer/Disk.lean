import Stencil.FileSystem.Operations
import Stencil.Filer.Basic
import Stencil.Names.Map

/-!
# A filer that keeps outputs in files

Every output is written to a temporary file beside its own file and moved there
when it is finished.  A writer that is dropped, or that cannot be finished,
takes its temporary file away.
-/

namespace Stencil

/-- An output that was committed to a file. -/
structure DiskOutput where
  path : Path
  provenance : Provenance
  deriving DecidableEq

/-- The state of a filer on disk: the files, and what the filer knows. -/
structure Disk where
  files : FileSystem
  /-- The names for which a writer was opened. -/
  created : NameSet := NameSet.empty
  /-- The outputs that were committed. -/
  outputs : NameMap DiskOutput := NameMap.empty
  deriving DecidableEq

/-- A writer on disk, with what was written so far. -/
structure DiskWriter where
  name : QualifiedName
  provenance : Provenance
  path : Path
  temporary : Path
  content : List UInt8
  deriving DecidableEq

namespace Disk

/-- The ending of generated sources. -/
def sourceExtension : String := "java"

/-- What the name of a temporary file adds to the name of its output. -/
def temporarySuffix : String := ".tmp"

/-- The path of the output with a name, below a root folder. -/
def pathFor (root : Path) (name : QualifiedName) : Path :=
  root.push (Path.ofQualifiedName name sourceExtension)

/-- The path of the temporary file of an output. -/
def temporaryFor (path : Path) : Path :=
  path.withFileName (path.fileName?.getD "" ++ temporarySuffix)

/-- Does something to the files alone. -/
def onFiles {α : Type} (action : Action FileSystem α) : Action Disk α := fun disk =>
  let (result, files) := action disk.files
  (result, { disk with files })

/-- Makes the folder of an output and an empty temporary file in it. -/
def prepare (path temporary : Path) : Action FileSystem Unit :=
  (match path.parent? with
    | some parent => FileSystem.ensureFolders parent
    | none => Action.done ()).andThen fun _ =>
  FileSystem.writeFile temporary []

/-- Opens a writer.  Every name can be opened once; a name that could not be
opened can be tried again. -/
def create (root : Path) (name : QualifiedName) (provenance : Provenance) :
    Action Disk DiskWriter := fun disk =>
  if disk.created.contains name then
    (.error (.recreated name), disk)
  else
    let path := pathFor root name
    let temporary := temporaryFor path
    match onFiles (prepare path temporary) disk with
    | (.ok (), after) =>
      (.ok ⟨name, provenance, path, temporary, []⟩,
        { after with created := after.created.insert name })
    | (.error error, after) => (.error error, after)

def write (writer : DiskWriter) (content : List UInt8) : Action Disk DiskWriter :=
  Action.done { writer with content := writer.content ++ content }

/-- Takes the temporary file of a writer away, if it is there. -/
def drop (writer : DiskWriter) (disk : Disk) : Disk :=
  (onFiles (FileSystem.removeFile writer.temporary) disk).2

/-- Moves what a writer holds to the file of its output. -/
def finish (writer : DiskWriter) : Action Disk Unit := fun disk =>
  let commit := (FileSystem.writeFile writer.temporary writer.content).andThen fun _ =>
    FileSystem.moveFile writer.temporary writer.path
  match onFiles commit disk with
  | (.ok (), after) =>
    (.ok (), { after with
      outputs := after.outputs.insert writer.name ⟨writer.path, writer.provenance⟩ })
  | (.error error, after) => (.error error, drop writer after)

def filer (root : Path) : Filer Disk DiskWriter where
  create := create root
  write := write
  finish := finish
  drop := drop

end Disk

end Stencil
