import Organizer.Proofs.Action.Performing
import Organizer.Timer.Scheduler

/-!
# Runs of the scheduler

A run is any sequence of events: commands with any arguments, and callbacks of timers of any number,
whether those timers are pending, were stopped, have fired already or do not exist. `Event.after` is
the scheduler that an event leaves behind, refused commands included, and `run` repeats it. For
statements about the past, `moments` keeps each event together with the scheduler that it met.

What an event can do to one slot is said once, in `Turn`: it leaves the slot as it is, lets it hold
a new timer, or empties it. `Event.turn` shows that there is no fourth way. Whatever holds of
schedulers through all turns holds in every run, and no later proof looks into a command again.
-/

namespace Organizer

/-- The count of a slot that a callback remembers, if its timer was started for that slot. -/
def Callback.generation? (kind : TimerKind) : Callback → Option Nat
  | .phaseOver _ generation => if kind = .pomodoro then some generation else none
  | .countdownOver generation _ => if kind = .countdown then some generation else none
  | .reminder _ => none

/-- The phases of a slot. -/
def TimerKind.phases : TimerKind → List Phase
  | .pomodoro => [.idle, .work, .rest]
  | .countdown => [.idle, .running]

namespace Scheduler

/-! ### The parts of a scheduler -/

section Parts

variable (s : Scheduler) (kind : TimerKind)

@[simp] theorem slot_start (delay : Float) (c : Callback) :
    (s.start delay c).slot kind = s.slot kind := by
  cases kind <;> rfl

@[simp] theorem slot_alert (title message : String) :
    (s.alert title message).slot kind = s.slot kind := by
  cases kind <;> rfl

@[simp] theorem slot_setSlot_self (slot : Slot) : (s.setSlot kind slot).slot kind = slot := by
  cases kind <;> rfl

theorem slot_setSlot_of_ne {kind other : TimerKind} (h : other ≠ kind) (slot : Slot) :
    (s.setSlot kind slot).slot other = s.slot other := by
  cases kind <;> cases other <;> first | rfl | exact absurd rfl h

@[simp] theorem timers_setSlot (slot : Slot) : (s.setSlot kind slot).timers = s.timers := by
  cases kind <;> rfl

@[simp] theorem cancelled_setSlot (slot : Slot) :
    (s.setSlot kind slot).cancelled = s.cancelled := by
  cases kind <;> rfl

@[simp] theorem timers_start (delay : Float) (c : Callback) :
    (s.start delay c).timers = s.timers ++ [⟨delay, c⟩] := rfl

@[simp] theorem cancelled_start (delay : Float) (c : Callback) :
    (s.start delay c).cancelled = s.cancelled := rfl

@[simp] theorem timers_alert (title message : String) :
    (s.alert title message).timers = s.timers := rfl

@[simp] theorem cancelled_alert (title message : String) :
    (s.alert title message).cancelled = s.cancelled := rfl

@[simp] theorem timers_release : (s.release kind).timers = s.timers := by simp [release]

@[simp] theorem cancelled_release : (s.release kind).cancelled = s.cancelled := by simp [release]

@[simp] theorem cancelled_arm (phase : Phase) (minutes : Float) (c : Nat → Callback) :
    (s.arm kind phase minutes c).cancelled = s.cancelled := by simp [arm]

end Parts

/-! ### Events and runs -/

/-- What can happen to a scheduler. -/
inductive Event
  | startPomodoro (work rest : Json)
  | startCountdown (minutes : Json) (message : String)
  | stop (kind : TimerKind)
  | remind (now : Moment) (time message : String)
  /-- The callback of a timer runs; there may be no timer of that number. -/
  | fire (number : Nat)
  deriving DecidableEq

namespace Event

/-- Carries out an event. -/
def action : Event → Action Scheduler Unit
  | .startPomodoro work rest => do let _ ← Scheduler.startPomodoro work rest
  | .startCountdown minutes message => do let _ ← Scheduler.startCountdown minutes message
  | .stop .pomodoro => do let _ ← stopPomodoro
  | .stop .countdown => do let _ ← stopCountdown
  | .remind now time message => do let _ ← Scheduler.remind now time message
  | .fire number => modify (·.fire number)

/-- The scheduler that an event leaves behind. -/
def after (e : Event) (s : Scheduler) : Scheduler := (e.action.perform s).2

/-- Is the event carried out and not refused? -/
def succeeds (e : Event) (s : Scheduler) : Bool := (e.action.perform s).1.toBool

end Event

/-- The scheduler after a run. -/
def run (s : Scheduler) (events : List Event) : Scheduler :=
  events.foldl (fun s e ↦ e.after s) s

/-- The moments of a run: each event with the scheduler that it meets. -/
def moments (s : Scheduler) : List Event → List (Scheduler × Event)
  | [] => []
  | e :: events => (s, e) :: moments (e.after s) events

@[simp] theorem run_nil (s : Scheduler) : s.run [] = s := rfl

@[simp] theorem run_append_singleton (s : Scheduler) (events : List Event) (e : Event) :
    s.run (events ++ [e]) = e.after (s.run events) := by
  simp [run]

@[simp] theorem moments_nil (s : Scheduler) : s.moments [] = [] := rfl

@[simp] theorem moments_append_singleton (s : Scheduler) (events : List Event) (e : Event) :
    s.moments (events ++ [e]) = s.moments events ++ [(s.run events, e)] := by
  induction events generalizing s with
  | nil => rfl
  | cons e' events ih =>
    rw [List.cons_append, moments, ih, moments, List.cons_append]
    rfl

/-! ### What each event does -/

theorem after_fire (s : Scheduler) (number : Nat) :
    (Event.fire number).after s = s.fire number := rfl

/-- The moment at which a session is started: the slot is idle, and there are two lengths. -/
theorem startPomodoro_cases (s : Scheduler) (work rest : Json) :
    ((Event.startPomodoro work rest).succeeds s = false ∧
        (Event.startPomodoro work rest).after s = s) ∨
      ((Event.startPomodoro work rest).succeeds s = true ∧ s.pomodoro.phase = .idle ∧
        ∃ l : SessionLength, Timer.minutesOf work (.double s.defaults.work) = .ok l.work ∧
          Timer.minutesOf rest (.double s.defaults.rest) = .ok l.rest ∧
          (Event.startPomodoro work rest).after s =
            { s with pomodoro := { s.pomodoro with length := some l } }.runPhase .work) := by
  -- the session is looked at first, then the two lengths in their order
  by_cases hidle : s.pomodoro.phase = .idle
  · rcases hwork : Timer.minutesOf work (.double s.defaults.work) with e | w
    · left
      simp [Event.succeeds, Event.after, Event.action, startPomodoro, Action.perform_bind, hidle,
        hwork, Except.toBool]
    · rcases hrest : Timer.minutesOf rest (.double s.defaults.rest) with e | r
      · left
        simp [Event.succeeds, Event.after, Event.action, startPomodoro, Action.perform_bind, hidle,
          hwork, hrest, Except.toBool]
      · right
        refine ⟨?_, hidle, ⟨w, r⟩, rfl, rfl, ?_⟩ <;>
          simp [Event.succeeds, Event.after, Event.action, startPomodoro, Action.perform_bind,
            hidle, hwork, hrest, Except.toBool]
  · left
    simp [Event.succeeds, Event.after, Event.action, startPomodoro, Action.perform_bind, hidle,
      Except.toBool, Except.map]

/-- A session is started in an idle slot, or nothing is. -/
theorem after_startPomodoro (s : Scheduler) (work rest : Json) :
    (Event.startPomodoro work rest).after s = s ∨
      s.pomodoro.phase = .idle ∧ ∃ l : SessionLength,
        (Event.startPomodoro work rest).after s =
          { s with pomodoro := { s.pomodoro with length := some l } }.runPhase .work := by
  rcases startPomodoro_cases s work rest with ⟨-, h⟩ | ⟨-, hidle, l, -, -, h⟩
  · exact .inl h
  · exact .inr ⟨hidle, l, h⟩

/-- What a countdown with a message says at its end. -/
def completion (message : String) : String :=
  if Text.allBlank message then defaultMessage else Text.strip message

/-- The moment at which a countdown is started: the slot is idle, and there is a length. -/
theorem startCountdown_cases (s : Scheduler) (minutes : Json) (message : String) :
    ((Event.startCountdown minutes message).succeeds s = false ∧
        (Event.startCountdown minutes message).after s = s) ∨
      ((Event.startCountdown minutes message).succeeds s = true ∧ s.countdown.phase = .idle ∧
        ∃ m : Float, Timer.minutesOf minutes .null = .ok m ∧
          (Event.startCountdown minutes message).after s =
            s.arm .countdown .running m (.countdownOver · (completion message))) := by
  by_cases hidle : s.countdown.phase = .idle
  · rcases hm : Timer.minutesOf minutes .null with e | m
    · left
      simp [Event.succeeds, Event.after, Event.action, startCountdown, Action.perform_bind, hidle,
        hm, Except.toBool]
    · right
      refine ⟨?_, hidle, m, rfl, ?_⟩ <;>
        simp [Event.succeeds, Event.after, Event.action, startCountdown, Action.perform_bind,
          hidle, hm, Except.toBool, completion]
  · left
    simp [Event.succeeds, Event.after, Event.action, startCountdown, Action.perform_bind, hidle,
      Except.toBool, Except.map]

/-- A countdown is started in an idle slot, or nothing is. -/
theorem after_startCountdown (s : Scheduler) (minutes : Json) (message : String) :
    (Event.startCountdown minutes message).after s = s ∨
      s.countdown.phase = .idle ∧ ∃ (m : Float) (text : String),
        (Event.startCountdown minutes message).after s =
          s.arm .countdown .running m (.countdownOver · text) := by
  rcases startCountdown_cases s minutes message with ⟨-, h⟩ | ⟨-, hidle, m, -, h⟩
  · exact .inl h
  · exact .inr ⟨hidle, m, completion message, h⟩

/-- A stop is refused if the slot is idle; else it empties the slot and cancels the timer that the
slot held. -/
theorem perform_stopSlot (s : Scheduler) (kind : TimerKind) :
    (stopSlot kind).perform s =
      if (s.slot kind).phase = .idle then (.error (.refused (.notRunning kind)), s)
      else (.ok (), { s.release kind with
        cancelled := s.cancelled ++ (s.slot kind).handle.toList }) := by
  by_cases hidle : (s.slot kind).phase = .idle <;>
    simp [stopSlot, Action.perform_bind, hidle]

theorem succeeds_stop (s : Scheduler) (kind : TimerKind) :
    (Event.stop kind).succeeds s = true ↔ (s.slot kind).phase ≠ .idle := by
  have hstop := perform_stopSlot s kind
  by_cases hidle : (s.slot kind).phase = .idle <;> cases kind <;>
    simp [Event.succeeds, Event.action, stopPomodoro, stopCountdown, hstop, hidle, Except.toBool]

theorem after_stop (s : Scheduler) (kind : TimerKind) :
    (Event.stop kind).after s =
      if (s.slot kind).phase = .idle then s
      else { s.release kind with cancelled := s.cancelled ++ (s.slot kind).handle.toList } := by
  have hstop := perform_stopSlot s kind
  by_cases hidle : (s.slot kind).phase = .idle <;> cases kind <;>
    simp [Event.after, Event.action, stopPomodoro, stopCountdown, hstop, hidle]

/-- A reminder is started, or nothing is. -/
theorem after_remind (s : Scheduler) (now : Moment) (time message : String) :
    (Event.remind now time message).after s = s ∨
      ∃ (delay : Float) (text : String),
        (Event.remind now time message).after s = s.start delay (.reminder text) := by
  rcases htarget : Timer.nextOccurrence now time with e | target
  · left
    simp [Event.after, Event.action, remind, Action.perform_bind, htarget]
  · by_cases hblank : Text.allBlank message = true
    · left
      simp [Event.after, Event.action, remind, Action.perform_bind, htarget, hblank]
    · right
      refine ⟨delayBetween now target, Text.strip message, ?_⟩
      simp [Event.after, Event.action, remind, Action.perform_bind, htarget, hblank]

/-! ### Turns of one slot -/

/-- Schedulers with the same timers, whose slots agree in all but the lengths of a session. -/
structure SameSlots (s s' : Scheduler) : Prop where
  timers : s'.timers = s.timers
  phase : ∀ kind, (s'.slot kind).phase = (s.slot kind).phase
  handle : ∀ kind, (s'.slot kind).handle = (s.slot kind).handle
  generation : ∀ kind, (s'.slot kind).generation = (s.slot kind).generation

/-- **What can happen to one slot.** A new timer is either held by the slot, under a count that no
timer has remembered so far, or it is none of the slot's. -/
inductive Turn (kind : TimerKind) (s s' : Scheduler) : Prop
  | leave (started : List Timer)
      (timers : s'.timers = s.timers ++ started)
      (foreign : ∀ t ∈ started, t.callback.generation? kind = none)
      (phase : (s'.slot kind).phase = (s.slot kind).phase)
      (handle : (s'.slot kind).handle = (s.slot kind).handle)
      (generation : (s'.slot kind).generation = (s.slot kind).generation)
  | arm (started : Timer)
      (timers : s'.timers = s.timers ++ [started])
      (own : started.callback.generation? kind = some ((s.slot kind).generation + 1))
      (phase : (s'.slot kind).phase ∈ kind.phases)
      (busy : (s'.slot kind).phase ≠ .idle)
      (handle : (s'.slot kind).handle = some s.timers.length)
      (generation : (s'.slot kind).generation = (s.slot kind).generation + 1)
  | empty
      (timers : s'.timers = s.timers)
      (phase : (s'.slot kind).phase = .idle)
      (handle : (s'.slot kind).handle = none)
      (generation : (s'.slot kind).generation = (s.slot kind).generation + 1)

namespace Turn

variable {s s₀ s' : Scheduler} {kind : TimerKind}

theorem refl (kind : TimerKind) (s : Scheduler) : Turn kind s s :=
  .leave [] (List.append_nil _).symm (by simp) rfl rfl rfl

/-- A turn depends on where it starts only through the timers and the slots. -/
theorem of_sameSlots (h : SameSlots s s₀) (turn : Turn kind s₀ s') : Turn kind s s' := by
  cases turn with
  | leave started timers foreign phase handle generation =>
    exact .leave started (h.timers ▸ timers) foreign (phase.trans (h.phase kind))
      (handle.trans (h.handle kind)) (generation.trans (h.generation kind))
  | arm started timers own phase busy handle generation =>
    rw [h.timers] at timers handle
    rw [h.generation kind] at own generation
    exact .arm started timers own phase busy handle generation
  | empty timers phase handle generation =>
    rw [h.generation kind] at generation
    exact .empty (timers.trans h.timers) phase handle generation

/-- And on where it ends. -/
theorem to_sameSlots (turn : Turn kind s s₀) (h : SameSlots s₀ s') : Turn kind s s' := by
  cases turn with
  | leave started timers foreign phase handle generation =>
    exact .leave started (h.timers.trans timers) foreign ((h.phase kind).trans phase)
      ((h.handle kind).trans handle) ((h.generation kind).trans generation)
  | arm started timers own phase busy handle generation =>
    rw [← h.phase kind] at phase busy
    exact .arm started (h.timers.trans timers) own phase busy ((h.handle kind).trans handle)
      ((h.generation kind).trans generation)
  | empty timers phase handle generation =>
    exact .empty (h.timers.trans timers) ((h.phase kind).trans phase)
      ((h.handle kind).trans handle) ((h.generation kind).trans generation)

/-- Timers keep their numbers. -/
theorem getElem?_timers (turn : Turn kind s s') {number : Nat} {t : Timer}
    (h : s.timers[number]? = some t) : s'.timers[number]? = some t := by
  have hlt := (List.getElem?_eq_some_iff.1 h).1
  cases turn with
  | leave started timers => rw [timers, List.getElem?_append_left hlt, h]
  | arm started timers => rw [timers, List.getElem?_append_left hlt, h]
  | empty timers => rw [timers, h]

theorem length_timers_le (turn : Turn kind s s') : s.timers.length ≤ s'.timers.length := by
  cases turn with
  | leave started timers => rw [timers, List.length_append]; omega
  | arm started timers => rw [timers, List.length_append]; omega
  | empty timers => exact Nat.le_of_eq (congrArg List.length timers.symm)

end Turn

theorem sameSlots_alert (s : Scheduler) (title message : String) :
    SameSlots s (s.alert title message) :=
  ⟨rfl, fun _ ↦ by rw [slot_alert], fun _ ↦ by rw [slot_alert], fun _ ↦ by rw [slot_alert]⟩

theorem sameSlots_length (s : Scheduler) (l : Option SessionLength) :
    SameSlots s { s with pomodoro := { s.pomodoro with length := l } } :=
  ⟨rfl, fun k ↦ by cases k <;> rfl, fun k ↦ by cases k <;> rfl, fun k ↦ by cases k <;> rfl⟩

theorem sameSlots_cancelled (s : Scheduler) (numbers : List Nat) :
    SameSlots s { s with cancelled := numbers } :=
  ⟨rfl, fun k ↦ by cases k <;> rfl, fun k ↦ by cases k <;> rfl, fun k ↦ by cases k <;> rfl⟩

/-- Starting a timer for a slot is a turn of that slot, and leaves the other one. -/
theorem turn_arm (s : Scheduler) {owner : TimerKind} {phase : Phase} (minutes : Float)
    {c : Nat → Callback} (hphase : phase ∈ owner.phases) (hbusy : phase ≠ .idle)
    (hown : ∀ g, (c g).generation? owner = some g)
    (hother : ∀ g other, other ≠ owner → (c g).generation? other = none) (kind : TimerKind) :
    Turn kind s (s.arm owner phase minutes c) := by
  by_cases hkind : kind = owner
  · subst hkind
    exact .arm ⟨minutes * 60.0, c ((s.slot kind).generation + 1)⟩ (by simp [arm]) (hown _)
      (by simpa [arm] using hphase) (by simpa [arm] using hbusy) (by simp [arm]) (by simp [arm])
  · have hslot : (s.arm owner phase minutes c).slot kind = s.slot kind := by
      rw [arm, slot_start, slot_setSlot_of_ne _ hkind]
    refine .leave [⟨minutes * 60.0, c ((s.slot owner).generation + 1)⟩] (by simp [arm]) ?_
      (by rw [hslot]) (by rw [hslot]) (by rw [hslot])
    intro t ht
    rw [List.mem_singleton.1 ht]
    exact hother _ kind hkind

/-- Emptying a slot is a turn of that slot, and leaves the other one. -/
theorem turn_release (s : Scheduler) (owner kind : TimerKind) :
    Turn kind s (s.release owner) := by
  by_cases hkind : kind = owner
  · subst hkind
    exact .empty (by simp) (by simp [release]) (by simp [release]) (by simp [release])
  · have hslot : (s.release owner).slot kind = s.slot kind := by
      rw [release, slot_setSlot_of_ne _ hkind]
    exact .leave [] (by simp) (by simp) (by rw [hslot]) (by rw [hslot]) (by rw [hslot])

/-- Beginning a phase of a session is a turn of every slot. -/
theorem turn_runPhase (s : Scheduler) {phase : Phase} (h : phase ∈ TimerKind.pomodoro.phases)
    (hbusy : phase ≠ .idle) (kind : TimerKind) : Turn kind s (s.runPhase phase) := by
  refine turn_arm s _ h hbusy (fun _ ↦ rfl) (fun g other hother ↦ ?_) kind
  rw [Callback.generation?, if_neg hother]

theorem next_mem_phases (phase : Phase) : phase.next ∈ TimerKind.pomodoro.phases := by
  cases phase <;> decide

theorem next_ne_idle (phase : Phase) : phase.next ≠ .idle := by
  cases phase <;> decide

/-- A callback is a turn of every slot, whatever it remembers. -/
theorem turn_react (s : Scheduler) (c : Callback) (kind : TimerKind) :
    Turn kind s (s.react c) := by
  cases c with
  | phaseOver phase generation =>
    -- the alert comes first, but what turns a slot is the phase that follows
    rw [react]
    split
    · exact .of_sameSlots (sameSlots_alert s _ _)
        (turn_runPhase _ (next_mem_phases phase) (next_ne_idle phase) kind)
    · exact .refl kind s
  | countdownOver generation message =>
    rw [react]
    split
    · exact (turn_release s .countdown kind).to_sameSlots (sameSlots_alert _ _ _)
    · exact .refl kind s
  | reminder message =>
    exact .of_sameSlots (sameSlots_alert s _ _) (.refl kind _)

theorem turn_fire (s : Scheduler) (number : Nat) (kind : TimerKind) :
    Turn kind s (s.fire number) := by
  rw [fire]
  split
  · exact turn_react s _ kind
  · exact .refl kind s

/-- **Every event is a turn of every slot.** -/
theorem Event.turn (e : Event) (s : Scheduler) (kind : TimerKind) : Turn kind s (e.after s) := by
  cases e with
  | startPomodoro work rest =>
    -- to note the lengths of a session is no turn by itself
    rcases after_startPomodoro s work rest with h | ⟨-, l, h⟩ <;> rw [h]
    · exact .refl kind s
    · exact .of_sameSlots (sameSlots_length s _) (turn_runPhase _ (by decide) (by decide) kind)
  | startCountdown minutes message =>
    rcases after_startCountdown s minutes message with h | ⟨-, m, text, h⟩ <;> rw [h]
    · exact .refl kind s
    · refine turn_arm s m (by decide) (by decide) (fun _ ↦ rfl) (fun g other hother ↦ ?_) kind
      rw [Callback.generation?, if_neg hother]
  | stop owner =>
    rw [after_stop]
    split
    · exact .refl kind s
    · exact (turn_release s owner kind).to_sameSlots (sameSlots_cancelled _ _)
  | remind now time message =>
    -- a reminder is held by no slot, and its callback remembers no count
    rcases after_remind s now time message with h | ⟨delay, text, h⟩ <;> rw [h]
    · exact .refl kind s
    · exact .leave [⟨delay, .reminder text⟩] rfl (by simp [Callback.generation?]) (by simp)
        (by simp) (by simp)
  | fire number => exact turn_fire s number kind

end Scheduler

end Organizer
