import Organizer.App

/-!
# Sessions

A session is a run of the organizer through restarts. A restart gives the organizer a new scheduler,
but the timers that were started before it go on running, and when one of them fires it acts on the
scheduler that it belongs to. A session therefore keeps all schedulers, and numbers all timers in
the order of their start.
-/

namespace Organizer

/-- A timer: which scheduler it belongs to, and its number there. -/
structure TimerId where
  scheduler : Nat
  number : Nat
  deriving DecidableEq, Repr

/-- The organizer with the schedulers of its earlier runs. -/
structure Session where
  app : App
  /-- The schedulers before the current one, oldest first. -/
  retired : List Scheduler := []
  /-- All timers in the order of their start. -/
  started : List TimerId := []
  deriving DecidableEq

namespace Session

/-- All schedulers, the current one last. -/
def schedulers (s : Session) : List Scheduler := s.retired ++ [s.app.scheduler]

/-- Numbers the timers of a scheduler that have no number yet. -/
def enrol (s : Session) (scheduler : Nat) (timers : Nat) : Session :=
  let known := (s.started.filter (·.scheduler = scheduler)).length
  { s with started :=
      s.started ++ ((List.range timers).drop known).map fun number ↦ ⟨scheduler, number⟩ }

/-- Numbers all timers that have no number yet. -/
def enrolAll (s : Session) : Session :=
  s.schedulers.zipIdx.foldl (fun s (scheduler, i) ↦ s.enrol i scheduler.timers.length) s

/-- Performs an action on the organizer. -/
def onApp {α : Type} (a : Action App α) : Action Session α :=
  Action.within Session.app (fun app s ↦ enrolAll { s with app }) a

/-- The timer of a number. -/
def timer? (s : Session) (id : TimerId) : Option Timer :=
  (s.schedulers[id.scheduler]?).bind (·.timers[id.number]?)

/-- The number of a timer. -/
def numberOf (s : Session) (id : TimerId) : Nat := s.started.idxOf id

/-- Lets the timer of a number fire; there may be none. -/
def fire (s : Session) (number : Nat) : Session :=
  match s.started[number]? with
  | none => s
  | some id =>
    if id.scheduler = s.retired.length then
      enrolAll { s with app := { s.app with scheduler := s.app.scheduler.fire id.number } }
    else enrolAll { s with retired := s.retired.modify id.scheduler (·.fire id.number) }

/-- Starts the organizer over. -/
def restart (s : Session) : Except Failure Session := do
  return { s with app := ← s.app.restart, retired := s.schedulers }

end Session

end Organizer
