import Organizer.Proofs.Action.Preserving
import Organizer.Proofs.Action.Relating
import Organizer.Proofs.Timer.Run

/-!
# Commands on one slot

A command on the scheduler has one slot, or none. It looks at that slot, at the lengths that are
meant without others, and at nothing else; and it leaves the other slot alone. The numbers of timers
do not count: a timer that is started has the next number, whichever that is, and two slots agree
if the timers that they hold do (`SameSlot`).
-/

namespace Organizer

open Organizer.Action

namespace Scheduler

variable {s t : Scheduler} {kind other : TimerKind}

/-! ### The same slot in two schedulers -/

/-- The slots agree, but for the numbers of the timers that they hold. -/
structure SameSlot (kind : TimerKind) (s t : Scheduler) : Prop where
  phase : (s.slot kind).phase = (t.slot kind).phase
  generation : (s.slot kind).generation = (t.slot kind).generation
  length : (s.slot kind).length = (t.slot kind).length
  pending : (s.slot kind).handle.map (s.timers[·]?) = (t.slot kind).handle.map (t.timers[·]?)

/-- The schedulers have the same lengths by default, and the slot, if there is one, is the same. -/
structure Agree (kind? : Option TimerKind) (s t : Scheduler) : Prop where
  defaults : s.defaults = t.defaults
  slot : ∀ kind, kind? = some kind → SameSlot kind s t

@[simp] theorem defaults_setSlot (s : Scheduler) (kind : TimerKind) (slot : Slot) :
    (s.setSlot kind slot).defaults = s.defaults := by
  cases kind <;> rfl

theorem slot_arm (s : Scheduler) (kind : TimerKind) (phase : Phase) (minutes : Float)
    (callback : Nat → Callback) : (s.arm kind phase minutes callback).slot kind =
      { s.slot kind with
        phase, generation := (s.slot kind).generation + 1, handle := some s.timers.length } := by
  rw [arm, slot_start, slot_setSlot_self]

/-- A slot that is given a timer is the same wherever it was the same. -/
theorem SameSlot.arm (h : SameSlot kind s t) (phase : Phase) (minutes : Float)
    (callback : Nat → Callback) :
    SameSlot kind (s.arm kind phase minutes callback) (t.arm kind phase minutes callback) where
  phase := by rw [slot_arm, slot_arm]
  generation := by rw [slot_arm, slot_arm, h.generation]
  length := by rw [slot_arm, slot_arm, h.length]
  pending := by
    rw [slot_arm, slot_arm]
    simp [Scheduler.arm, h.generation]

theorem SameSlot.release (h : SameSlot kind s t) :
    SameSlot kind (s.release kind) (t.release kind) where
  phase := by simp [Scheduler.release]
  generation := by simp [Scheduler.release, h.generation]
  length := by simp [Scheduler.release, h.length]
  pending := by simp [Scheduler.release]

theorem Agree.slot_self (h : Agree (some kind) s t) : SameSlot kind s t := h.slot kind rfl

/-- An agreement about one slot. -/
theorem agree_some (hdefaults : s.defaults = t.defaults) (h : SameSlot kind s t) :
    Agree (some kind) s t :=
  ⟨hdefaults, fun _ heq ↦ Option.some.inj heq ▸ h⟩

theorem Agree.arm (h : Agree (some kind) s t) (phase : Phase) (minutes : Float)
    (callback : Nat → Callback) :
    Agree (some kind) (s.arm kind phase minutes callback) (t.arm kind phase minutes callback) :=
  agree_some (by simpa [Scheduler.arm, start] using h.defaults)
    (h.slot_self.arm phase minutes callback)

theorem alike_startPomodoro (work rest : Json) :
    Alike (Agree (some .pomodoro)) (startPomodoro work rest) (startPomodoro work rest) := by
  refine .get_bind fun s t h ↦ ?_
  have hphase : s.pomodoro.phase = t.pomodoro.phase := h.slot_self.phase
  rw [hphase, h.defaults]
  refine .ite (fun _ ↦ .refuse _) fun _ ↦ .bind (.ofExcept _) fun work ↦
    .bind (.ofExcept _) fun rest ↦ .bind (.modify fun s t h ↦ ?_) fun _ ↦
      .bind (.modify fun s t h ↦ ?_) fun _ ↦ .pure _
  · have hslot := h.slot_self
    exact agree_some h.defaults ⟨hslot.phase, hslot.generation, rfl, hslot.pending⟩
  · have hlength : s.pomodoro.length = t.pomodoro.length := h.slot_self.length
    rw [runPhase, runPhase, hlength, h.defaults]
    exact h.arm ..

theorem alike_startCountdown (minutes : Json) (message : String) :
    Alike (Agree (some .countdown)) (startCountdown minutes message)
      (startCountdown minutes message) := by
  refine .get_bind fun s t h ↦ ?_
  have hphase : s.countdown.phase = t.countdown.phase := h.slot_self.phase
  rw [hphase]
  exact .ite (fun _ ↦ .refuse _) fun _ ↦ .bind (.ofExcept _) fun _ ↦
    .bind (.modify fun s t h ↦ h.arm ..) fun _ ↦ .pure _

/-- Which timer is cancelled is not said. -/
theorem alike_stopSlot (kind : TimerKind) :
    Alike (Agree (some kind)) (stopSlot kind) (stopSlot kind) := by
  refine .get_bind fun s t h ↦ ?_
  dsimp only
  rw [h.slot_self.phase]
  refine .ite (fun _ ↦ .refuse _) fun _ ↦
    .bind (.modify fun s t h ↦ ?_) fun _ ↦ .modify fun s t h ↦ ?_
  · exact agree_some (by simpa [Scheduler.release] using h.defaults) h.slot_self.release
  · have hslot := h.slot_self
    exact agree_some h.defaults
      (by cases kind <;> exact ⟨hslot.phase, hslot.generation, hslot.length, hslot.pending⟩)

theorem alike_stopPomodoro :
    Alike (Agree (some .pomodoro)) stopPomodoro stopPomodoro :=
  .bind (alike_stopSlot _) fun _ ↦ .pure _

theorem alike_stopCountdown :
    Alike (Agree (some .countdown)) stopCountdown stopCountdown :=
  .bind (alike_stopSlot _) fun _ ↦ .pure _

theorem alike_remind (now : Moment) (time message : String) :
    Alike (Agree none) (remind now time message) (remind now time message) :=
  .bind (.ofExcept _) fun _ ↦ .ite (fun _ ↦ .refuse _) fun _ ↦
    .bind (.modify fun _ _ h ↦ ⟨h.defaults, fun _ heq ↦ absurd heq (by simp)⟩) fun _ ↦ .pure _

/-! ### The other slot -/

variable {slot : Slot}

/-- An invariant of each slot, but for those that an action is about, is one of all of them. -/
theorem preserves_forall {α : Type} {a : Action Scheduler α} {kind? : Option TimerKind}
    {slots : TimerKind → Slot}
    (h : ∀ other, kind? ≠ some other → Preserves (fun s ↦ s.slot other = slots other) a) :
    Preserves (fun s ↦ ∀ other, kind? ≠ some other → s.slot other = slots other) a :=
  fun s hs ↦ ⟨fun other hother ↦ (h other hother s (hs other hother)).1, .anything _⟩

theorem slot_arm_of_ne (h : other ≠ kind) (s : Scheduler) (phase : Phase) (minutes : Float)
    (callback : Nat → Callback) :
    (s.arm kind phase minutes callback).slot other = s.slot other := by
  rw [arm, slot_start, slot_setSlot_of_ne _ h]

theorem preserves_startPomodoro (h : other ≠ .pomodoro) (work rest : Json) :
    Preserves (fun s ↦ s.slot other = slot) (startPomodoro work rest) := by
  refine .bind (p := fun _ ↦ True) (.of_readOnly .get fun _ _ ↦ .anything _) fun _ _ ↦
    .ite (fun _ ↦ .refuse _) fun _ ↦ .bind (.ofExcept (.anything _)) fun _ _ ↦
      .bind (.ofExcept (.anything _)) fun _ _ ↦ .bind (.modify fun s hs ↦ ?_) fun _ _ ↦
        .bind (.modify fun s hs ↦ ?_) fun _ _ ↦ .pure trivial
  · cases other with
    | pomodoro => exact absurd rfl h
    | countdown => exact hs
  · exact (slot_arm_of_ne h ..).trans hs

theorem preserves_startCountdown (h : other ≠ .countdown) (minutes : Json) (message : String) :
    Preserves (fun s ↦ s.slot other = slot) (startCountdown minutes message) :=
  .bind (p := fun _ ↦ True) (.of_readOnly .get fun _ _ ↦ .anything _) fun _ _ ↦
    .ite (fun _ ↦ .refuse _) fun _ ↦ .bind (.ofExcept (.anything _)) fun _ _ ↦
      .bind (.modify fun _ hs ↦ (slot_arm_of_ne h ..).trans hs) fun _ _ ↦ .pure trivial

theorem preserves_stopSlot (h : other ≠ kind) :
    Preserves (fun s ↦ s.slot other = slot) (stopSlot kind) := by
  refine .bind (p := fun _ ↦ True) (.of_readOnly .get fun _ _ ↦ .anything _) fun _ _ ↦
    .ite (fun _ ↦ .refuse _) fun _ ↦ .bind (.modify fun s hs ↦ ?_) fun _ _ ↦
      .modify fun s hs ↦ ?_
  · rw [Scheduler.release, slot_setSlot_of_ne _ h, hs]
  · rw [← hs]
    cases other <;> rfl

theorem preserves_remind (now : Moment) (time message : String) :
    Preserves (fun s ↦ s.slot other = slot) (remind now time message) :=
  .bind (.ofExcept (.anything _)) fun _ _ ↦ .ite (fun _ ↦ .refuse _) fun _ ↦
    .bind (.modify fun s hs ↦ (slot_start s other _ _).trans hs) fun _ _ ↦ .pure trivial

end Scheduler

end Organizer
