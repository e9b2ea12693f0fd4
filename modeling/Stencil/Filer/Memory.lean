import Stencil.Filer.Basic
import Stencil.Names.Map

/-!
# A filer that keeps outputs in memory
-/

namespace Stencil

/-- An output that is kept. -/
structure MemoryOutput where
  text : String
  provenance : Provenance
  deriving DecidableEq

/-- The state of a filer in memory. -/
structure Memory where
  /-- The names that were created, also those whose writer was dropped. -/
  created : NameSet := NameSet.empty
  /-- The outputs that were committed. -/
  outputs : NameMap MemoryOutput := NameMap.empty
  deriving DecidableEq

/-- A writer in memory. -/
structure MemoryWriter where
  name : QualifiedName
  provenance : Provenance
  content : List UInt8
  deriving DecidableEq

namespace Memory

/-- Opens a writer.  Every name can be created once. -/
def create (name : QualifiedName) (provenance : Provenance) : Action Memory MemoryWriter :=
  fun memory =>
    if memory.created.contains name then
      (.error (.recreated name), memory)
    else
      (.ok ⟨name, provenance, []⟩, { memory with created := memory.created.insert name })

def write (writer : MemoryWriter) (content : List UInt8) : Action Memory MemoryWriter :=
  Action.done { writer with content := writer.content ++ content }

/-- Keeps what a writer holds, if it is text. -/
def finish (writer : MemoryWriter) : Action Memory Unit := fun memory =>
  match Text.decode writer.content with
  | .ok text =>
    (.ok (), { memory with outputs := memory.outputs.insert writer.name ⟨text, writer.provenance⟩ })
  | .error error => (.error (.undecodable error), memory)

def filer : Filer Memory MemoryWriter where
  create := create
  write := write
  finish := finish
  drop _ memory := memory

end Memory

end Stencil
