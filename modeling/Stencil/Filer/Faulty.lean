import Stencil.Filer.Basic

/-!
# Filers that fail

A filer can be made to fail for chosen outputs, at a chosen one of the calls
that an output takes.  The filer behind it never sees these outputs.
-/

namespace Stencil

/-- The calls that an output takes. -/
inductive FilerCall where
  | create
  | write
  | finish
  deriving DecidableEq, Repr

/-- A writer of a filer that can fail. -/
inductive FaultyWriter (ω : Type) where
  /-- A writer of the filer behind it. -/
  | sound (writer : ω)
  /-- A writer that fails at a call. -/
  | doomed (call : FilerCall)

namespace Filer

variable {σ ω : Type}

/-- A filer that fails with an error at the call that the plan chooses for an
output. -/
def failing (plan : QualifiedName → Option FilerCall) (error : FileError) (filer : Filer σ ω) :
    Filer σ (FaultyWriter ω) where
  create name provenance :=
    match plan name with
    | none =>
      (filer.create name provenance).andThen fun writer => Action.done (.sound writer)
    | some .create => Action.fail error
    | some call => Action.done (.doomed call)
  write writer content :=
    match writer with
    | .sound writer =>
      (filer.write writer content).andThen fun next => Action.done (.sound next)
    | .doomed .write => Action.fail error
    | .doomed call => Action.done (.doomed call)
  finish writer :=
    match writer with
    | .sound writer => filer.finish writer
    | .doomed _ => Action.fail error
  drop writer state :=
    match writer with
    | .sound writer => filer.drop writer state
    | .doomed _ => state

end Filer

end Stencil
