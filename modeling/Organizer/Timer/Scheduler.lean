import Organizer.Number.Scientific
import Organizer.Timer.Duration

/-!
# The scheduler

Two slots, one for the work and break phases of a Pomodoro session and one for a countdown, hold at
most one pending timer each; reminders are timers that nothing holds. Starting a timer means
recording it: `timers` lists all that were ever started, by number, with the delay and with what is
to happen when the time is up. Whoever runs the scheduler waits and then calls `fire`.

A timer cannot be taken back once it is started. Instead each slot counts its changes, and a timer
remembers the count at its start: when it fires and the counts differ, it is stale, and nothing
happens. So a timer that was stopped, or has fired already, may fire again without harm.
-/

namespace Organizer

open Number

/-- What a slot is doing. -/
inductive Phase
  | idle
  | work
  | rest
  | running
  deriving DecidableEq, Repr

/-- The word for a phase. -/
def Phase.name : Phase → String
  | .idle => "idle"
  | .work => "work"
  | .rest => "break"
  | .running => "running"

/-- The word for a phase at the beginning of a line. -/
def Phase.title : Phase → String
  | .idle => "Idle"
  | .work => "Work"
  | .rest => "Break"
  | .running => "Running"

/-- The phase that follows in a Pomodoro session. -/
def Phase.next : Phase → Phase
  | .work => .rest
  | _ => .work

/-- The minutes of the two phases of a Pomodoro session. -/
structure SessionLength where
  work : Float
  rest : Float
  deriving DecidableEq, Repr

/-- The minutes of a phase. -/
def SessionLength.minutes (l : SessionLength) : Phase → Float
  | .work => l.work
  | _ => l.rest

/-- A place for one pending timer. -/
structure Slot where
  phase : Phase := .idle
  /-- The number of the pending timer. -/
  handle : Option Nat := none
  /-- Counts the changes; a timer that was started at another count is stale. -/
  generation : Nat := 0
  /-- The lengths of the current Pomodoro session. -/
  length : Option SessionLength := none
  deriving DecidableEq, Repr

/-- What happens when a timer fires. -/
inductive Callback
  /-- A phase of a Pomodoro session is over. -/
  | phaseOver (phase : Phase) (generation : Nat)
  | countdownOver (generation : Nat) (message : String)
  | reminder (message : String)
  deriving DecidableEq, Repr

/-- A timer that was started: its delay in seconds, and what happens then. -/
structure Timer where
  delay : Float
  callback : Callback
  deriving DecidableEq, Repr

/-- A notice to the person. -/
structure Alert where
  title : String
  message : String
  deriving DecidableEq, Repr

/-- The slots, and everything that they have brought about. -/
structure Scheduler where
  /-- The lengths of a Pomodoro session that is started without any. -/
  defaults : SessionLength
  pomodoro : Slot := {}
  countdown : Slot := {}
  /-- All timers ever started, by number. -/
  timers : List Timer := []
  /-- The numbers of the timers that were stopped, in that order. -/
  cancelled : List Nat := []
  /-- All notices, oldest first. -/
  alerts : List Alert := []
  deriving DecidableEq, Repr

namespace Scheduler

/-! ### Slots -/

/-- One of the two slots. -/
def slot (s : Scheduler) : TimerKind → Slot
  | .pomodoro => s.pomodoro
  | .countdown => s.countdown

/-- Replaces one of the two slots. -/
def setSlot (s : Scheduler) : TimerKind → Slot → Scheduler
  | .pomodoro, slot => { s with pomodoro := slot }
  | .countdown, slot => { s with countdown := slot }

/-- Starts a timer. -/
def start (s : Scheduler) (delay : Float) (callback : Callback) : Scheduler :=
  { s with timers := s.timers ++ [⟨delay, callback⟩] }

/-- Raises an alert. -/
def alert (s : Scheduler) (title message : String) : Scheduler :=
  { s with alerts := s.alerts ++ [⟨title, message⟩] }

/-- Starts a timer of some minutes and lets a slot hold it. -/
def arm (s : Scheduler) (kind : TimerKind) (phase : Phase) (minutes : Float)
    (callback : Nat → Callback) : Scheduler :=
  let slot := s.slot kind
  let generation := slot.generation + 1
  (s.setSlot kind { slot with phase, generation, handle := some s.timers.length }).start
    (minutes * 60.0) (callback generation)

/-- Empties a slot. -/
def release (s : Scheduler) (kind : TimerKind) : Scheduler :=
  let slot := s.slot kind
  s.setSlot kind { slot with phase := .idle, handle := none, generation := slot.generation + 1 }

/-- Cancels the timer that a slot holds, and empties the slot. -/
def stopSlot (kind : TimerKind) : Action Scheduler Unit := do
  let slot := (← get).slot kind
  if slot.phase = .idle then Action.refuse (.notRunning kind)
  else
    modify (·.release kind)
    modify fun s ↦ { s with cancelled := s.cancelled ++ slot.handle.toList }

/-! ### Pomodoro -/

/-- Begins a phase of the current session. -/
def runPhase (s : Scheduler) (phase : Phase) : Scheduler :=
  s.arm .pomodoro phase ((s.pomodoro.length.getD s.defaults).minutes phase) (.phaseOver phase)

/-- Starts a Pomodoro session. -/
def startPomodoro (work rest : Json) : Action Scheduler String := do
  let s ← get
  if s.pomodoro.phase ≠ .idle then Action.refuse (.alreadyRunning .pomodoro)
  else
    let work ← Action.ofExcept (Timer.minutesOf work (.double s.defaults.work))
    let rest ← Action.ofExcept (Timer.minutesOf rest (.double s.defaults.rest))
    modify fun s ↦ { s with pomodoro := { s.pomodoro with length := some ⟨work, rest⟩ } }
    modify (·.runPhase .work)
    return "Pomodoro started: " ++ showBrief work ++ " min work, " ++ showBrief rest ++
      " min break."

/-- Stops the Pomodoro session. -/
def stopPomodoro : Action Scheduler String := do
  stopSlot .pomodoro
  return "Pomodoro timer stopped."

/-! ### Countdown -/

/-- What a countdown says when nothing else was asked for. -/
def defaultMessage : String := "Timer finished!"

/-- Starts a countdown. -/
def startCountdown (minutes : Json) (message : String) : Action Scheduler String := do
  if (← get).countdown.phase ≠ .idle then Action.refuse (.alreadyRunning .countdown)
  else
    let minutes ← Action.ofExcept (Timer.minutesOf minutes .null)
    let text := if Text.allBlank message then defaultMessage else Text.strip message
    modify (·.arm .countdown .running minutes (.countdownOver · text))
    return "Timer started for " ++ showBrief minutes ++ " minute(s)."

/-- Stops the countdown. -/
def stopCountdown : Action Scheduler String := do
  stopSlot .countdown
  return "Timer stopped."

/-! ### Reminders -/

/-- The shortest delay of a reminder, in microseconds. -/
def shortestDelay : Nat := 1000

/-- The delay in seconds from one point in time to another. -/
def delayBetween (now target : Moment) : Float :=
  Double.nearest false (max (target.instant - now.instant).toNat shortestDelay) 1000000

/-- Starts a reminder for the next occurrence of a time of day, and answers with that. -/
def remind (now : Moment) (time message : String) : Action Scheduler Moment := do
  let target ← Action.ofExcept (Timer.nextOccurrence now time)
  if Text.allBlank message then Action.refuse .noMessage
  else
    modify (·.start (delayBetween now target) (.reminder (Text.strip message)))
    return target

/-! ### Firing -/

/-- What a timer does to the scheduler when its time is up. -/
def react (s : Scheduler) : Callback → Scheduler
  | .phaseOver phase generation =>
    if s.pomodoro.generation = generation then
      (s.alert (phase.title ++ " Session Over!")
        ("Time for your " ++ phase.next.name ++ " session.")).runPhase phase.next
    else s
  | .countdownOver generation message =>
    if s.countdown.generation = generation then
      (s.release .countdown).alert "Timer Complete!" message
    else s
  | .reminder message => s.alert "Reminder" message

/-- Lets the timer of a number fire; there may be none. -/
def fire (s : Scheduler) (number : Nat) : Scheduler :=
  match s.timers[number]? with
  | some timer => s.react timer.callback
  | none => s

end Scheduler

end Organizer
