import Organizer.Refusal

/-!
# Actions on a state

An `Action σ α` reads and changes a state of type `σ` and answers with an `α` or a failure. The
state that a failing action leaves behind is kept: an action that writes first and fails later has
written. That nothing is written before a refusal is therefore a property of the commands and not of
this type.
-/

namespace Organizer

/-- An action on a state that may fail; the state is kept even then. -/
abbrev Action (σ α : Type) := ExceptT Failure (StateM σ) α

namespace Action

/-- The outcome of an action on a state, and the state it leaves. -/
def perform {σ α : Type} (a : Action σ α) (s : σ) : Except Failure α × σ := a.run.run s

/-- Stops with a refusal. -/
def refuse {σ α : Type} (reason : Refusal) : Action σ α := throw (.refused reason)

/-- Stops with an unexpected failure. -/
def fail {σ α : Type} : Action σ α := throw .unexpected

/-- Takes the value of an option, or stops with an unexpected failure. -/
def require {σ α : Type} : Option α → Action σ α
  | some a => pure a
  | none => fail

/-- Goes on with a value that was computed without a state, or stops as it did. -/
def ofExcept {σ α : Type} : Except Failure α → Action σ α
  | .ok a => pure a
  | .error e => throw e

/-- Performs an action on one part of a larger state. -/
def within {σ τ α : Type} (part : τ → σ) (replace : σ → τ → τ) (a : Action σ α) : Action τ α :=
  ExceptT.mk fun t ↦
    let (r, s) := a.perform (part t)
    (r, replace s t)

end Action

end Organizer
