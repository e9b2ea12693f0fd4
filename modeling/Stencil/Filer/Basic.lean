import Stencil.FileSystem.Action
import Stencil.Generated

/-!
# Filers

A filer takes outputs in.  It hands out a writer for every output; nothing is
visible of the output until the writer is finished, and a writer that is
dropped leaves nothing.  A filer is described by its four operations on a
state; an operation that fails can still change the state.
-/

namespace Stencil

/-- A filer with states `σ` and writers `ω`. -/
structure Filer (σ ω : Type) where
  /-- Opens a writer for an output with its provenance. -/
  create : QualifiedName → Provenance → Action σ ω
  /-- Hands octets to a writer. -/
  write : ω → List UInt8 → Action σ ω
  /-- Commits what was written. -/
  finish : ω → Action σ Unit
  /-- Gives up what was written. -/
  drop : ω → σ → σ

namespace Filer

variable {σ ω : Type}

/-- Writes octets; a writer that fails is dropped. -/
def writeOrDrop (filer : Filer σ ω) (writer : ω) (content : List UInt8) : Action σ ω :=
  fun state =>
    match filer.write writer content state with
    | (.ok next, after) => (.ok next, after)
    | (.error error, after) => (.error error, filer.drop writer after)

/-- Takes an output in, committing it only after its whole text was written. -/
def emit (filer : Filer σ ω) (generated : GeneratedUnit) : Action σ Unit :=
  (filer.create generated.qualifiedName generated.provenance).andThen fun writer =>
    (filer.writeOrDrop writer (Text.octets generated.text)).andThen filer.finish

end Filer

end Stencil
