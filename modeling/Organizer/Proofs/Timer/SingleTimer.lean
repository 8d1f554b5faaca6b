import Mathlib.Data.List.Induction
import Mathlib.Logic.ExistsUnique
import Organizer.Proofs.Timer.Run

/-!
# At most one pending timer for each slot

Timers cannot be taken back, so a scheduler accumulates timers that were stopped or have fired, and
any of them may fire again. This module shows what becomes of each timer that was ever started for a
slot: it is the one that the slot holds, or its callback took effect exactly once, or it was
cancelled by exactly one stop. Whatever is not held by its slot can fire without consequences.

## What carries the proof

`Counted` relates the count of a slot, the timer that it holds and all timers of the past: no timer
remembers a higher count, and the timer that is held is the only one that remembers the current one.
It holds through every `Turn`, hence in every run (`counted_run`). With it, a callback of a slot's
timer takes effect exactly if that timer is held (`fire_eq_self` and `alerts_fire_of_held`), and the
tally of effects and stops goes by what an event does to the timer that is held.
-/

namespace Organizer.Scheduler

/-! ### The count of a slot -/

/-- The timer of a number was started for a slot. -/
def Owns (s : Scheduler) (kind : TimerKind) (number : Nat) : Prop :=
  ∃ t ∈ s.timers[number]?, (t.callback.generation? kind).isSome

/-- **The count of a slot**, the timer that it holds and all that were ever started for it. -/
structure Counted (s : Scheduler) (kind : TimerKind) : Prop where
  idle_iff : (s.slot kind).phase = .idle ↔ (s.slot kind).handle = none
  phase_mem : (s.slot kind).phase ∈ kind.phases
  /-- No timer remembers a count that is still to come. -/
  le_generation : ∀ t ∈ s.timers, ∀ g ∈ t.callback.generation? kind, g ≤ (s.slot kind).generation
  /-- The timer that is held is the one that remembers the current count. -/
  handle_iff : ∀ number, (s.slot kind).handle = some number ↔
    ∃ t ∈ s.timers[number]?, t.callback.generation? kind = some (s.slot kind).generation

theorem counted_fresh (defaults : SessionLength) (kind : TimerKind) :
    Counted { defaults } kind := by
  refine ⟨?_, ?_, fun _ h ↦ absurd h List.not_mem_nil, fun number ↦ ?_⟩ <;> cases kind <;>
    simp [slot, TimerKind.phases]

namespace Counted

variable {s s' : Scheduler} {kind : TimerKind}

theorem of_turn (h : Counted s kind) (turn : Turn kind s s') : Counted s' kind := by
  cases turn with
  | leave started timers foreign phase handle generation =>
    -- whatever remembers a count of this slot is an old timer
    have hforeign : ∀ t ∈ started, ∀ g, t.callback.generation? kind ≠ some g := by
      intro t ht g hg
      rw [foreign t ht] at hg
      exact absurd hg (by simp)
    refine ⟨by rw [phase, handle]; exact h.idle_iff, phase ▸ h.phase_mem, ?_, ?_⟩
    · intro t ht g hg
      rw [generation]
      rw [timers] at ht
      rcases List.mem_append.1 ht with ht | ht
      · exact h.le_generation t ht g hg
      · exact absurd hg (hforeign t ht g)
    · intro number
      rw [handle, generation, timers, h.handle_iff]
      constructor
      · rintro ⟨t, ht, hg⟩
        exact ⟨t, List.getElem?_append_left (List.getElem?_eq_some_iff.1 ht).1 ▸ ht, hg⟩
      · rintro ⟨t, ht, hg⟩
        rcases Nat.lt_or_ge number s.timers.length with hlt | hge
        · exact ⟨t, by rwa [List.getElem?_append_left hlt] at ht, hg⟩
        · rw [List.getElem?_append_right hge] at ht
          exact absurd hg (hforeign t (List.mem_of_getElem? ht) _)
  | arm started timers own phase busy handle generation =>
    -- the new timer is the only one that remembers the new count
    refine ⟨by simp [busy, handle], phase, ?_, ?_⟩
    · intro t ht g hg
      rw [generation]
      rw [timers] at ht
      rcases List.mem_append.1 ht with ht | ht
      · exact Nat.le_succ_of_le (h.le_generation t ht g hg)
      · obtain rfl := List.mem_singleton.1 ht
        exact Nat.le_of_eq (Option.some.inj (hg.symm.trans own))
    · intro number
      rw [handle, generation, timers]
      constructor
      · intro hnumber
        obtain rfl := Option.some.inj hnumber
        exact ⟨started, by simp, own⟩
      · rintro ⟨t, ht, hg⟩
        rcases Nat.lt_or_ge number s.timers.length with hlt | hge
        · -- an old timer remembers at most the old count
          rw [List.getElem?_append_left hlt] at ht
          exact absurd (h.le_generation t (List.mem_of_getElem? ht) _ hg) (by omega)
        · have hlt := (List.getElem?_eq_some_iff.1 ht).1
          rw [List.length_append, List.length_singleton] at hlt
          rw [show s.timers.length = number by omega]
  | empty timers phase handle generation =>
    -- no timer remembers the new count, and none is held
    refine ⟨by simp [phase, handle], by rw [phase]; cases kind <;> decide, ?_, ?_⟩
    · intro t ht g hg
      rw [generation]
      exact Nat.le_succ_of_le (h.le_generation t (timers ▸ ht) g hg)
    · intro number
      rw [handle, generation, timers]
      constructor
      · exact fun hnone ↦ absurd hnone (by simp)
      · rintro ⟨t, ht, hg⟩
        exact absurd (h.le_generation t (List.mem_of_getElem? ht) _ hg) (by omega)

/-- The timer that is held was started for the slot that holds it. -/
theorem owns_of_held (h : Counted s kind) {number : Nat}
    (hheld : (s.slot kind).handle = some number) : s.Owns kind number := by
  obtain ⟨t, ht, hg⟩ := (h.handle_iff number).1 hheld
  exact ⟨t, ht, by rw [hg]; rfl⟩

end Counted

/-- The count of every slot is right in every run. -/
theorem counted_run (defaults : SessionLength) (events : List Event) (kind : TimerKind) :
    Counted (({ defaults } : Scheduler).run events) kind := by
  induction events using List.reverseRecOn with
  | nil => exact counted_fresh defaults kind
  | append_singleton events e ih =>
    rw [run_append_singleton]
    exact ih.of_turn (e.turn _ kind)

/-! ### Callbacks that take effect -/

theorem Owns.lt_length {s : Scheduler} {kind : TimerKind} {number : Nat}
    (h : s.Owns kind number) : number < s.timers.length := by
  obtain ⟨t, ht, -⟩ := h
  exact (List.getElem?_eq_some_iff.1 ht).1

/-- A timer belongs to one slot. -/
theorem Owns.kind_unique {s : Scheduler} {kind other : TimerKind} {number : Nat}
    (h : s.Owns kind number) (h' : s.Owns other number) : kind = other := by
  obtain ⟨t, ht, hk⟩ := h
  obtain ⟨t', ht', hk'⟩ := h'
  obtain rfl := Option.some.inj (ht.symm.trans ht')
  cases hc : t.callback <;> cases kind <;> cases other <;>
    first | rfl | simp [hc, Callback.generation?] at hk hk'

/-- A callback with an outdated count does nothing. -/
theorem react_of_ne {s : Scheduler} {kind : TimerKind} {c : Callback} {g : Nat}
    (hc : c.generation? kind = some g) (hg : g ≠ (s.slot kind).generation) : s.react c = s := by
  cases c with
  | phaseOver phase generation =>
    cases kind with
    | pomodoro =>
      obtain rfl : generation = g := Option.some.inj hc
      exact if_neg (Ne.symm hg)
    | countdown => exact absurd hc (by simp [Callback.generation?])
  | countdownOver generation message =>
    cases kind with
    | pomodoro => exact absurd hc (by simp [Callback.generation?])
    | countdown =>
      obtain rfl : generation = g := Option.some.inj hc
      exact if_neg (Ne.symm hg)
  | reminder message => exact absurd hc (by simp [Callback.generation?])

/-- A callback with the current count raises an alert and moves the count of its slot on. -/
theorem react_of_eq {s : Scheduler} {kind : TimerKind} {c : Callback}
    (hc : c.generation? kind = some (s.slot kind).generation) :
    ((s.react c).slot kind).generation = (s.slot kind).generation + 1 ∧
      ∃ a, (s.react c).alerts = s.alerts ++ [a] := by
  cases c with
  | phaseOver phase generation =>
    cases kind with
    | pomodoro =>
      obtain rfl : generation = s.pomodoro.generation := Option.some.inj hc
      rw [react, if_pos rfl]
      exact ⟨rfl, _, rfl⟩
    | countdown => exact absurd hc (by simp [Callback.generation?])
  | countdownOver generation message =>
    cases kind with
    | pomodoro => exact absurd hc (by simp [Callback.generation?])
    | countdown =>
      obtain rfl : generation = s.countdown.generation := Option.some.inj hc
      rw [react, if_pos rfl]
      exact ⟨rfl, _, rfl⟩
  | reminder message => exact absurd hc (by simp [Callback.generation?])

/-- A callback of another slot, or of a reminder, leaves the slot alone. -/
theorem slot_react_of_none {s : Scheduler} {kind : TimerKind} {c : Callback}
    (hc : c.generation? kind = none) : (s.react c).slot kind = s.slot kind := by
  cases c with
  | phaseOver phase generation =>
    cases kind with
    | pomodoro => exact absurd hc (by simp [Callback.generation?])
    | countdown => rw [react]; split <;> rfl
  | countdownOver generation message =>
    cases kind with
    | pomodoro => rw [react]; split <;> rfl
    | countdown => exact absurd hc (by simp [Callback.generation?])
  | reminder message => rw [react, slot_alert]

theorem fire_of_getElem? {s : Scheduler} {number : Nat} {t : Timer}
    (h : s.timers[number]? = some t) : s.fire number = s.react t.callback := by
  rw [fire, h]

/-- A callback never cancels anything. -/
theorem cancelled_fire (s : Scheduler) (number : Nat) :
    (s.fire number).cancelled = s.cancelled := by
  rw [fire]
  split
  · next t _ =>
    cases hc : t.callback <;> rw [react] <;> first | rfl | split <;> rfl
  · rfl

namespace Counted

variable {s : Scheduler} {kind : TimerKind} {number : Nat}

/-- **A timer that its slot does not hold fires without consequences.** -/
theorem fire_eq_self (h : Counted s kind) (howns : s.Owns kind number)
    (hheld : (s.slot kind).handle ≠ some number) : s.fire number = s := by
  obtain ⟨t, ht, hk⟩ := howns
  obtain ⟨g, hg⟩ := Option.isSome_iff_exists.1 hk
  rw [fire_of_getElem? ht]
  refine react_of_ne hg fun heq ↦ hheld ((h.handle_iff number).2 ⟨t, ht, ?_⟩)
  rw [hg, heq]

/-- The timer that is held raises an alert when it fires, and is held no longer. -/
theorem fire_of_held (h : Counted s kind) (hheld : (s.slot kind).handle = some number) :
    s.fire number ≠ s ∧ ((s.fire number).slot kind).handle ≠ some number := by
  obtain ⟨t, ht, hg⟩ := (h.handle_iff number).1 hheld
  obtain ⟨hgen, a, halerts⟩ := react_of_eq hg
  rw [← fire_of_getElem? ht] at hgen halerts
  refine ⟨?_, ?_⟩
  · intro heq
    rw [heq] at halerts
    exact absurd (congrArg List.length halerts) (by simp)
  · intro hstill
    -- it would have to remember the new count, which is past all counts
    obtain ⟨t', ht', hg'⟩ := ((h.of_turn (turn_fire s number kind)).handle_iff number).1 hstill
    obtain rfl : t' = t := Option.some.inj
      (ht'.symm.trans ((turn_fire s number kind).getElem?_timers ht))
    rw [hg, hgen] at hg'
    exact absurd (Option.some.inj hg') (by omega)

/-- **The timer that is held stays so** unless it fires or its slot is stopped. -/
theorem held_after (h : Counted s kind) (hheld : (s.slot kind).handle = some number) {e : Event}
    (hfire : e ≠ .fire number) (hstop : e ≠ .stop kind) :
    ((e.after s).slot kind).handle = some number := by
  have hbusy : (s.slot kind).phase ≠ .idle := by
    rw [Ne, h.idle_iff, hheld]
    simp
  -- a busy slot is not started again, and what happens to the other slot does not matter
  cases e with
  | startPomodoro work rest =>
    rcases after_startPomodoro s work rest with hs | ⟨hidle, l, hs⟩ <;> rw [hs]
    · exact hheld
    · cases kind with
      | pomodoro => exact absurd hidle hbusy
      | countdown => exact hheld
  | startCountdown minutes message =>
    rcases after_startCountdown s minutes message with hs | ⟨hidle, m, text, hs⟩ <;> rw [hs]
    · exact hheld
    · cases kind with
      | pomodoro => exact hheld
      | countdown => exact absurd hidle hbusy
  | stop owner =>
    have hne : kind ≠ owner := fun heq ↦ hstop (heq ▸ rfl)
    rw [after_stop]
    split
    · exact hheld
    · rw [(sameSlots_cancelled (s.release owner) _).handle kind, release,
        slot_setSlot_of_ne _ hne]
      exact hheld
  | remind now time message =>
    rcases after_remind s now time message with hs | ⟨delay, text, hs⟩ <;> rw [hs]
    · exact hheld
    · rw [slot_start]
      exact hheld
  | fire other =>
    have hne : other ≠ number := fun heq ↦ hfire (heq ▸ rfl)
    rw [after_fire]
    -- another timer of the slot is outdated, and any other does not reach the slot
    by_cases howns : s.Owns kind other
    · rw [h.fire_eq_self howns (by rw [hheld]; exact fun heq ↦ hne (Option.some.inj heq).symm)]
      exact hheld
    · rw [fire]
      split
      · next t ht =>
        have hnone : t.callback.generation? kind = none :=
          Option.not_isSome_iff_eq_none.1 fun hsome ↦ howns ⟨t, ht, hsome⟩
        rw [slot_react_of_none hnone]
        exact hheld
      · exact hheld

end Counted

/-- An old timer that is not held will never be held again. -/
theorem Turn.handle_ne {s s' : Scheduler} {kind : TimerKind} (turn : Turn kind s s') {number : Nat}
    (hold : number < s.timers.length) (hheld : (s.slot kind).handle ≠ some number) :
    (s'.slot kind).handle ≠ some number := by
  cases turn with
  | leave started timers foreign phase handle => rwa [handle]
  | arm started timers own phase busy handle =>
    rw [handle]
    exact fun heq ↦ absurd (Option.some.inj heq) (by omega)
  | empty timers phase handle => rw [handle]; simp

/-- A new timer of a slot is the one that the slot holds. -/
theorem Turn.handle_eq {s s' : Scheduler} {kind : TimerKind} (turn : Turn kind s s') {number : Nat}
    (hnew : s.timers.length ≤ number) (howns : s'.Owns kind number) :
    (s'.slot kind).handle = some number := by
  obtain ⟨t, ht, hk⟩ := howns
  cases turn with
  | leave started timers foreign =>
    rw [timers, List.getElem?_append_right hnew] at ht
    rw [foreign t (List.mem_of_getElem? ht)] at hk
    exact absurd hk (by simp)
  | arm started timers own phase busy handle =>
    have hlt := (List.getElem?_eq_some_iff.1 ht).1
    rw [timers, List.length_append, List.length_singleton] at hlt
    rw [handle, show s.timers.length = number by omega]
  | empty timers =>
    rw [timers] at ht
    exact absurd (List.getElem?_eq_some_iff.1 ht).1 (by omega)

/-! ### Tallies -/

/-- The callback of a timer runs and changes something. -/
def tookEffect (number : Nat) (m : Scheduler × Event) : Bool :=
  m.2 == .fire number && m.1.fire number != m.1

/-- A slot is stopped, and that cancels a timer. -/
def wasStopped (number : Nat) (m : Scheduler × Event) : Bool :=
  match m.2 with
  | .stop kind =>
    (Event.stop kind).succeeds m.1 &&
      ((Event.stop kind).after m.1).cancelled == m.1.cancelled ++ [number]
  | _ => false

theorem tookEffect_iff {number : Nat} {s : Scheduler} {e : Event} :
    tookEffect number (s, e) = true ↔ e = .fire number ∧ s.fire number ≠ s := by
  simp [tookEffect]

theorem wasStopped_iff {number : Nat} {s : Scheduler} {e : Event} :
    wasStopped number (s, e) = true ↔
      ∃ kind, e = .stop kind ∧ (s.slot kind).phase ≠ .idle ∧
        (s.slot kind).handle = some number := by
  cases e with
  | stop kind =>
    simp only [wasStopped, Bool.and_eq_true, succeeds_stop, after_stop, beq_iff_eq]
    constructor
    · rintro ⟨hbusy, hcancelled⟩
      rw [if_neg hbusy] at hcancelled
      refine ⟨kind, rfl, hbusy, ?_⟩
      have htail := List.append_cancel_left hcancelled
      rcases hhandle : (s.slot kind).handle with - | n <;> rw [hhandle] at htail
      · exact absurd htail (by simp)
      · exact congrArg some (List.singleton_inj.1 htail)
    · rintro ⟨kind', hkind, hbusy, hheld⟩
      obtain rfl := Event.stop.inj hkind
      refine ⟨hbusy, ?_⟩
      rw [if_neg hbusy, hheld]
      rfl
  | _ => simp [wasStopped]

/-- A timer is cancelled as often as a stop cancels it, and by nothing else. -/
theorem count_cancelled_after (s : Scheduler) (e : Event) (number : Nat) :
    (e.after s).cancelled.count number =
      s.cancelled.count number + if wasStopped number (s, e) then 1 else 0 := by
  cases e with
  | startPomodoro work rest =>
    rcases after_startPomodoro s work rest with h | ⟨-, l, h⟩ <;> rw [h] <;>
      simp [wasStopped, runPhase]
  | startCountdown minutes message =>
    rcases after_startCountdown s minutes message with h | ⟨-, m, text, h⟩ <;> rw [h] <;>
      simp [wasStopped]
  | stop kind =>
    by_cases hbusy : (s.slot kind).phase = .idle
    · have hstopped : wasStopped number (s, .stop kind) = false := by
        rw [← Bool.not_eq_true, wasStopped_iff]
        rintro ⟨kind', hkind, hne, -⟩
        exact hne (Event.stop.inj hkind ▸ hbusy)
      rw [after_stop, if_pos hbusy, hstopped]
      rfl
    · have hiff : wasStopped number (s, .stop kind) = true ↔
          (s.slot kind).handle = some number := by
        rw [wasStopped_iff]
        constructor
        · rintro ⟨kind', hkind, -, hheld⟩
          exact Event.stop.inj hkind ▸ hheld
        · exact fun hheld ↦ ⟨kind, rfl, hbusy, hheld⟩
      rw [after_stop, if_neg hbusy]
      show (s.cancelled ++ (s.slot kind).handle.toList).count number = _
      rw [List.count_append]
      congr 1
      rcases hhandle : (s.slot kind).handle with - | n
      · simp [hiff, hhandle]
      · simp only [hhandle, Option.some.injEq] at hiff
        simp only [hiff, Option.toList_some, List.count_singleton, beq_iff_eq]
  | remind now time message =>
    rcases after_remind s now time message with h | ⟨delay, text, h⟩ <;> rw [h] <;>
      simp [wasStopped]
  | fire other => simp [after_fire, cancelled_fire, wasStopped]

/-- How often the callback of a timer took effect. -/
def effects (history : List (Scheduler × Event)) (number : Nat) : Nat :=
  history.countP (tookEffect number)

/-- How often a timer was cancelled by a stop of its slot. -/
def stops (history : List (Scheduler × Event)) (number : Nat) : Nat :=
  history.countP (wasStopped number)

/-- The tally of a slot's timers: what is held is untouched, what was dropped has had one cause, and
what is still to be started has no past. -/
structure Tallied (history : List (Scheduler × Event)) (s : Scheduler) (kind : TimerKind) :
    Prop where
  held : ∀ number, (s.slot kind).handle = some number →
    effects history number = 0 ∧ stops history number = 0
  dropped : ∀ number, s.Owns kind number → (s.slot kind).handle ≠ some number →
    effects history number + stops history number = 1
  unborn : ∀ number, s.timers.length ≤ number →
    effects history number = 0 ∧ stops history number = 0

theorem effects_append_singleton (history : List (Scheduler × Event)) (m : Scheduler × Event)
    (number : Nat) :
    effects (history ++ [m]) number =
      effects history number + if tookEffect number m then 1 else 0 := by
  rw [effects, List.countP_append, List.countP_singleton]
  rfl

theorem stops_append_singleton (history : List (Scheduler × Event)) (m : Scheduler × Event)
    (number : Nat) :
    stops (history ++ [m]) number =
      stops history number + if wasStopped number m then 1 else 0 := by
  rw [stops, List.countP_append, List.countP_singleton]
  rfl

theorem Owns.of_turn {s s' : Scheduler} {kind : TimerKind} {number : Nat}
    (turn : Turn kind s s') (h : s'.Owns kind number) (hold : number < s.timers.length) :
    s.Owns kind number := by
  obtain ⟨t, ht, hk⟩ := h
  have hget := List.getElem?_eq_getElem hold
  obtain rfl := Option.some.inj ((turn.getElem?_timers hget).symm.trans ht)
  exact ⟨_, hget, hk⟩

section Step

variable {s : Scheduler} {kind : TimerKind} {number : Nat} {e : Event}

/-- Only a stop of the slot that holds a timer cancels it. -/
theorem not_wasStopped
    (h : ∀ kind, (s.slot kind).handle = some number → e ≠ .stop kind) :
    wasStopped number (s, e) = false := by
  rw [← Bool.not_eq_true, wasStopped_iff]
  rintro ⟨kind, hstop, -, hheld⟩
  exact h kind hheld hstop

/-- Only the firing of a timer makes its callback take effect. -/
theorem not_tookEffect (h : e = .fire number → s.fire number = s) :
    tookEffect number (s, e) = false := by
  rw [← Bool.not_eq_true, tookEffect_iff]
  exact fun ⟨hfire, hne⟩ ↦ hne (h hfire)

theorem fire_of_length_le (h : s.timers.length ≤ number) : s.fire number = s := by
  rw [fire, List.getElem?_eq_none h]

/-- **The tally goes on** through every event. -/
theorem Tallied.after {history : List (Scheduler × Event)} (hcounted : ∀ kind, Counted s kind)
    (h : Tallied history s kind) (e : Event) :
    Tallied (history ++ [(s, e)]) (e.after s) kind := by
  have hturn := e.turn s kind
  have hbusy : ∀ {number}, (s.slot kind).handle = some number → (s.slot kind).phase ≠ .idle := by
    intro number hheld
    rw [Ne, (hcounted kind).idle_iff, hheld]
    simp
  -- a timer that is held under this slot is held under no other
  have hother : ∀ {number}, s.Owns kind number → ∀ other, (s.slot other).handle = some number →
      other = kind := fun howns other hheld ↦
    ((hcounted other).owns_of_held hheld).kind_unique howns
  have hunborn : ∀ {number}, s.timers.length ≤ number →
      tookEffect number (s, e) = false ∧ wasStopped number (s, e) = false := by
    intro number hle
    refine ⟨not_tookEffect fun _ ↦ fire_of_length_le hle, not_wasStopped ?_⟩
    intro other hheld _
    exact absurd ((hcounted other).owns_of_held hheld).lt_length (by omega)
  refine ⟨fun number hheld' ↦ ?_, fun number howns' hheld' ↦ ?_, fun number hle ↦ ?_⟩ <;>
    rw [effects_append_singleton, stops_append_singleton]
  -- what is held now was held before and is untouched, or was not there yet
  · rcases Nat.lt_or_ge number s.timers.length with hlt | hge
    · have hheld : (s.slot kind).handle = some number :=
        Decidable.byContradiction fun hne ↦ hturn.handle_ne hlt hne hheld'
      have howns := (hcounted kind).owns_of_held hheld
      have heffect : tookEffect number (s, e) = false := by
        refine not_tookEffect ?_
        intro hfire
        subst hfire
        exact absurd hheld' ((hcounted kind).fire_of_held hheld).2
      have hstop : wasStopped number (s, e) = false := by
        refine not_wasStopped ?_
        intro other hother' hstop
        obtain rfl := hother howns other hother'
        subst hstop
        rw [after_stop, if_neg (hbusy hheld), (sameSlots_cancelled _ _).handle, release,
          slot_setSlot_self] at hheld'
        exact absurd hheld' (by simp)
      simpa [heffect, hstop] using h.held number hheld
    · obtain ⟨heffect, hstop⟩ := hunborn hge
      simpa [heffect, hstop] using h.unborn number hge
  -- what is not held now was dropped by this event or before; a new timer would be held
  · rcases Nat.lt_or_ge number s.timers.length with hlt | hge
    · have howns := howns'.of_turn hturn hlt
      by_cases hheld : (s.slot kind).handle = some number
      · -- it was held, so it has just fired or was just stopped
        obtain ⟨hno, hno'⟩ := h.held number hheld
        rw [hno, hno']
        by_cases hfire : e = .fire number
        · subst hfire
          simp [tookEffect, wasStopped, ((hcounted kind).fire_of_held hheld).1]
        · have hstop : e = .stop kind := Decidable.byContradiction fun hne ↦
            hheld' ((hcounted kind).held_after hheld hfire hne)
          have heffect := not_tookEffect (s := s) fun heq ↦ absurd heq hfire
          have hstopped := wasStopped_iff.2 ⟨kind, hstop, hbusy hheld, hheld⟩
          simp [heffect, hstopped]
      · have heffect := not_tookEffect (e := e) fun _ ↦ (hcounted kind).fire_eq_self howns hheld
        have hstop := not_wasStopped (e := e) fun other hother' _ ↦
          hheld (hother howns other hother' ▸ hother')
        simpa [heffect, hstop] using h.dropped number howns hheld
    · exact absurd (hturn.handle_eq hge howns') hheld'
  · have hge := Nat.le_trans hturn.length_timers_le hle
    obtain ⟨heffect, hstop⟩ := hunborn hge
    simpa [heffect, hstop] using h.unborn number hge

end Step

/-- The tally of every slot is right in every run. -/
theorem tallied_run (defaults : SessionLength) (events : List Event) (kind : TimerKind) :
    Tallied (({ defaults } : Scheduler).moments events) (({ defaults } : Scheduler).run events)
      kind := by
  induction events using List.reverseRecOn with
  | nil =>
    refine ⟨fun _ _ ↦ ⟨rfl, rfl⟩, ?_, fun _ _ ↦ ⟨rfl, rfl⟩⟩
    intro number howns
    exact absurd howns.lt_length (Nat.not_lt_zero number)
  | append_singleton events e ih =>
    rw [run_append_singleton, moments_append_singleton]
    exact ih.after (counted_run defaults events) e

theorem count_cancelled_run (defaults : SessionLength) (events : List Event) (number : Nat) :
    (({ defaults } : Scheduler).run events).cancelled.count number =
      stops (({ defaults } : Scheduler).moments events) number := by
  induction events using List.reverseRecOn with
  | nil => rfl
  | append_singleton events e ih =>
    rw [run_append_singleton, moments_append_singleton, count_cancelled_after, ih,
      stops_append_singleton]

/-! ### The main statement -/

/-- What becomes of a timer of a slot: the slot holds it, its callback took effect, or it was
stopped. -/
inductive Fate
  | held
  | effective
  | stopped
  deriving DecidableEq, Repr

/-- The timer of a number has met a fate in a history, and no other. -/
def Met (history : List (Scheduler × Event)) (s : Scheduler) (kind : TimerKind) (number : Nat) :
    Fate → Prop
  | .held => (s.slot kind).handle = some number ∧ effects history number = 0 ∧
      stops history number = 0
  | .effective => (s.slot kind).handle ≠ some number ∧ effects history number = 1 ∧
      stops history number = 0
  | .stopped => (s.slot kind).handle ≠ some number ∧ effects history number = 0 ∧
      stops history number = 1

/-- **One live timer for each slot.** After any run from a fresh scheduler a slot is idle exactly if
it holds no timer, and what it holds is one of its own. Every timer that was ever started for it has
met exactly one fate, stops being the only cause of a cancellation; and one that the slot does not
hold fires without any consequence. -/
theorem single_timer_run (defaults : SessionLength) (events : List Event) (kind : TimerKind) :
    let start : Scheduler := { defaults }
    let history := start.moments events
    let s := start.run events
    ((s.slot kind).phase = .idle ↔ (s.slot kind).handle = none) ∧
      (s.slot kind).phase ∈ kind.phases ∧
      (∀ number, (s.slot kind).handle = some number → s.Owns kind number) ∧
      (∀ number, s.Owns kind number →
        (∃! fate, Met history s kind number fate) ∧
          s.cancelled.count number = stops history number) ∧
      ∀ number, s.Owns kind number → (s.slot kind).handle ≠ some number →
        s.fire number = s := by
  intro start history s
  have hcounted : Counted s kind := counted_run defaults events kind
  have htallied : Tallied history s kind := tallied_run defaults events kind
  refine ⟨hcounted.idle_iff, hcounted.phase_mem, fun _ ↦ hcounted.owns_of_held,
    fun number howns ↦ ⟨?_, count_cancelled_run defaults events number⟩,
    fun _ ↦ hcounted.fire_eq_self⟩
  by_cases hheld : (s.slot kind).handle = some number
  · obtain ⟨heffects, hstops⟩ := htallied.held number hheld
    refine ⟨.held, ⟨hheld, heffects, hstops⟩, ?_⟩
    intro fate hmet
    cases fate with
    | held => rfl
    | effective => exact absurd hheld hmet.1
    | stopped => exact absurd hheld hmet.1
  · have htotal := htallied.dropped number howns hheld
    -- the two tallies sum up to one, so one of them says which fate it was
    rcases Nat.eq_zero_or_pos (effects history number) with hzero | hpos
    · refine ⟨.stopped, ⟨hheld, hzero, by omega⟩, ?_⟩
      intro fate hmet
      cases fate with
      | held => exact absurd hmet.1 hheld
      | effective => exact absurd hmet.2.1 (by omega)
      | stopped => rfl
    · refine ⟨.effective, ⟨hheld, by omega, by omega⟩, ?_⟩
      intro fate hmet
      cases fate with
      | held => exact absurd hmet.1 hheld
      | effective => rfl
      | stopped => exact absurd hmet.2.1 (by omega)

end Organizer.Scheduler
