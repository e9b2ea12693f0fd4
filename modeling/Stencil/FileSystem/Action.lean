import Stencil.FileSystem.Error

/-!
# Actions that can fail

An action takes a state, succeeds or fails, and leaves a state.  An action that
fails can have changed the state before.
-/

namespace Stencil

/-- What an operation on a state does: it succeeds or fails, and leaves a state. -/
abbrev Action (σ α : Type) := σ → Except FileError α × σ

namespace Action

variable {σ α β : Type}

/-- The action that gives a value and changes nothing. -/
def done (value : α) : Action σ α := fun state => (.ok value, state)

/-- The action that fails and changes nothing. -/
def fail (error : FileError) : Action σ α := fun state => (.error error, state)

/-- One action, and if it succeeds another. -/
def andThen (first : Action σ α) (second : α → Action σ β) : Action σ β := fun state =>
  match first state with
  | (.ok value, next) => second value next
  | (.error error, next) => (.error error, next)

end Action

end Stencil
