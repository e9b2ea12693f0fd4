import Stencil.Filer.Disk
import Stencil.Filer.Memory

/-!
# Sessions with writers

Whoever uses a filer directly opens a writer, hands it an output in chunks of octets, may
have what was written so far put in a safe place, and then finishes the writer or drops it.
A filer has one writer open at a time, so its use is a sequence of such sessions.
-/

namespace Stencil

variable {σ ω : Type}

/-- A filer whose writers can be flushed. -/
structure FlushingFiler (σ ω : Type) extends Filer σ ω where
  /-- Puts what was written so far in a safe place; nothing is committed. -/
  flush : ω → Action σ ω

/-- In memory there is nothing to be done. -/
def Memory.flushing : FlushingFiler Memory MemoryWriter := { filer with flush := Action.done }

/-- Writes what a writer holds to its temporary file. -/
def Disk.flush (writer : DiskWriter) : Action Disk DiskWriter :=
  (onFiles (FileSystem.writeFile writer.temporary writer.content)).andThen fun _ =>
    Action.done writer

def Disk.flushing (root : Path) : FlushingFiler Disk DiskWriter :=
  { filer root with flush := flush }

/-- What is done with one writer. -/
structure WriterSession where
  name : QualifiedName
  provenance : Provenance
  chunks : List (List UInt8)
  /-- Whether the writer is flushed after the last chunk. -/
  flushed : Bool
  /-- Whether the writer is finished; otherwise it is dropped. -/
  finished : Bool
  deriving DecidableEq

/-- Hands chunks to a writer in order; a writer that fails is dropped. -/
def Filer.writeAll (filer : Filer σ ω) : List (List UInt8) → ω → Action σ ω
  | [], writer => Action.done writer
  | chunk :: rest, writer => (filer.writeOrDrop writer chunk).andThen (filer.writeAll rest)

/-- Flushes a writer; one that fails is dropped. -/
def FlushingFiler.flushOrDrop (filer : FlushingFiler σ ω) (writer : ω) : Action σ ω :=
  fun state =>
    match filer.flush writer state with
    | (.ok next, after) => (.ok next, after)
    | (.error error, after) => (.error error, filer.drop writer after)

namespace WriterSession

/-- What is written in a session. -/
def content (session : WriterSession) : List UInt8 := session.chunks.flatten

/-- Goes through a session. -/
def run (filer : FlushingFiler σ ω) (session : WriterSession) : Action σ Unit :=
  (filer.create session.name session.provenance).andThen fun writer =>
  (filer.writeAll session.chunks writer).andThen fun written =>
  (if session.flushed then filer.flushOrDrop written else Action.done written).andThen fun held =>
  if session.finished then filer.finish held else fun state => (.ok (), filer.drop held state)

/-- Goes through sessions one after the other, whatever comes of them. -/
def runAll (filer : FlushingFiler σ ω) :
    List WriterSession → σ → List (Except FileError Unit) × σ
  | [], state => ([], state)
  | session :: rest, state =>
    let (result, next) := session.run filer state
    let (results, last) := runAll filer rest next
    (result :: results, last)

end WriterSession

end Stencil
