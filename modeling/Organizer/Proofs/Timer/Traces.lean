import Organizer.Proofs.Timer.SingleTimer

/-!
# What a session and a countdown bring about

The alerts and timers of a run, told apart by the slot that they belong to. From its start to its
stop a Pomodoro session raises the alerts for the end of work and the end of a break in turn, and
for each of them, and for its start, it starts one timer, with the lengths of this session in turn;
outside of sessions there is no such alert. A countdown raises its own message at most once, and not
after it was stopped. None of this depends on what else goes on: stale callbacks, the other slot and
reminders can come in between at any point.

`Event.samePart_or_acts` says once which events touch the part of a slot at all: a start, a stop,
and the callback that remembers the current count. What a session has brought about is then the
invariant `InSession`, which a step either keeps or takes one phase further. What a countdown has
brought about is what its timer raises (`raisedBy`): its message while the slot has the count that
the timer remembers, and nothing once the slot has a later one.
-/

namespace Organizer

/-- The titles of the alerts of a slot. -/
def TimerKind.titles : TimerKind → List String
  | .pomodoro => ["Work Session Over!", "Break Session Over!"]
  | .countdown => ["Timer Complete!"]

/-- Only the end of a phase remembers a count of the Pomodoro slot. -/
theorem Callback.exists_phaseOver {c : Callback} {g : Nat}
    (h : c.generation? .pomodoro = some g) : ∃ phase, c = .phaseOver phase g := by
  cases c with
  | phaseOver phase generation => exact ⟨phase, congrArg _ (Option.some.inj h)⟩
  | countdownOver | reminder => cases h

/-- Only the end of a countdown remembers a count of the countdown slot. -/
theorem Callback.exists_countdownOver {c : Callback} {g : Nat}
    (h : c.generation? .countdown = some g) : ∃ message, c = .countdownOver g message := by
  cases c with
  | countdownOver generation message =>
    exact ⟨message, congrArg (Callback.countdownOver · message) (Option.some.inj h)⟩
  | phaseOver | reminder => cases h

namespace Scheduler

/-! ### The part of a slot -/

/-- The alerts of a slot. -/
def alertsOf (s : Scheduler) (kind : TimerKind) : List Alert :=
  s.alerts.filter (·.title ∈ kind.titles)

/-- The timers that were started for a slot. -/
def timersOf (s : Scheduler) (kind : TimerKind) : List Timer :=
  s.timers.filter (·.callback.generation? kind |>.isSome)

/-- Schedulers that agree in a slot, its alerts and its timers. -/
structure SamePart (kind : TimerKind) (s s' : Scheduler) : Prop where
  slot : s'.slot kind = s.slot kind
  alerts : s'.alertsOf kind = s.alertsOf kind
  timers : s'.timersOf kind = s.timersOf kind

section Parts

variable (s : Scheduler) (kind : TimerKind)

theorem SamePart.refl : SamePart kind s s := ⟨rfl, rfl, rfl⟩

variable {s kind} in
theorem SamePart.trans {s' s'' : Scheduler} (h : SamePart kind s s') (h' : SamePart kind s' s'') :
    SamePart kind s s'' :=
  ⟨h'.slot.trans h.slot, h'.alerts.trans h.alerts, h'.timers.trans h.timers⟩

@[simp] theorem alertsOf_setSlot (owner : TimerKind) (slot : Slot) :
    (s.setSlot owner slot).alertsOf kind = s.alertsOf kind := by
  cases owner <;> rfl

@[simp] theorem alertsOf_start (delay : Float) (c : Callback) :
    (s.start delay c).alertsOf kind = s.alertsOf kind := rfl

theorem alertsOf_alert (title message : String) :
    (s.alert title message).alertsOf kind =
      s.alertsOf kind ++ if title ∈ kind.titles then [⟨title, message⟩] else [] := by
  by_cases h : title ∈ kind.titles <;> simp [alertsOf, alert, h]

theorem timersOf_start (delay : Float) (c : Callback) :
    (s.start delay c).timersOf kind =
      s.timersOf kind ++ if (c.generation? kind).isSome then [⟨delay, c⟩] else [] := by
  cases h : (c.generation? kind).isSome <;> simp [timersOf, start, h]

@[simp] theorem timersOf_setSlot (owner : TimerKind) (slot : Slot) :
    (s.setSlot owner slot).timersOf kind = s.timersOf kind := by
  rw [timersOf, timers_setSlot, timersOf]

variable {kind} in
theorem samePart_start (delay : Float) {c : Callback} (h : c.generation? kind = none) :
    SamePart kind s (s.start delay c) :=
  ⟨slot_start s kind delay c, rfl, by simp [timersOf_start, h]⟩

variable {kind} in
theorem samePart_alert {title : String} (h : title ∉ kind.titles)
    (message : String) : SamePart kind s (s.alert title message) :=
  ⟨slot_alert s kind title message, by simp [alertsOf_alert, h], rfl⟩

variable {kind} in
theorem samePart_setSlot {owner : TimerKind} (h : kind ≠ owner) (slot : Slot) :
    SamePart kind s (s.setSlot owner slot) :=
  ⟨slot_setSlot_of_ne s h slot, by simp, by simp⟩

variable {kind} in
theorem samePart_arm {owner : TimerKind} (h : kind ≠ owner) (phase : Phase) (minutes : Float)
    {c : Nat → Callback} (hc : ∀ g, (c g).generation? kind = none) :
    SamePart kind s (s.arm owner phase minutes c) :=
  (samePart_setSlot s h _).trans (samePart_start _ _ (hc _))

end Parts

theorem over_not_mem_titles (phase : Phase) :
    phase.title ++ " Session Over!" ∉ TimerKind.countdown.titles := by
  cases phase <;> decide

/-! ### Events that act on a slot -/

/-- A callback that does not remember the current count of a slot leaves its part alone. -/
theorem samePart_react {s : Scheduler} {kind : TimerKind} {c : Callback}
    (h : c.generation? kind ≠ some (s.slot kind).generation) : SamePart kind s (s.react c) := by
  cases c with
  | phaseOver phase generation =>
    rw [react]
    split
    · next hcurrent =>
      cases kind with
      | pomodoro => exact absurd (congrArg some hcurrent.symm) h
      | countdown =>
        exact (samePart_alert s (over_not_mem_titles phase) _).trans
          (samePart_arm _ (by decide) _ _ fun _ ↦ rfl)
    · exact .refl s kind
  | countdownOver generation message =>
    rw [react]
    split
    · next hcurrent =>
      cases kind with
      | pomodoro =>
        exact (samePart_setSlot s (by decide) _).trans (samePart_alert _ (by decide) _)
      | countdown => exact absurd (congrArg some hcurrent.symm) h
    · exact .refl s kind
  | reminder message => exact samePart_alert s (by cases kind <;> decide) _

/-- The events that act on a slot: its start, its stop, and the callback that remembers its current
count. -/
inductive Acts (s : Scheduler) : Event → TimerKind → Prop
  | session {work rest : Json} {l : SessionLength}
      (succeeds : (Event.startPomodoro work rest).succeeds s = true)
      (idle : s.pomodoro.phase = .idle)
      (after : (Event.startPomodoro work rest).after s =
        { s with pomodoro := { s.pomodoro with length := some l } }.runPhase .work) :
      Acts s (.startPomodoro work rest) .pomodoro
  | countdown {minutes : Json} {message : String} {m : Float}
      (succeeds : (Event.startCountdown minutes message).succeeds s = true)
      (idle : s.countdown.phase = .idle)
      (after : (Event.startCountdown minutes message).after s =
        s.arm .countdown .running m (.countdownOver · (completion message))) :
      Acts s (.startCountdown minutes message) .countdown
  | stop {kind : TimerKind} (busy : (s.slot kind).phase ≠ .idle) : Acts s (.stop kind) kind
  | callback {kind : TimerKind} {number : Nat} {t : Timer} (timer : s.timers[number]? = some t)
      (current : t.callback.generation? kind = some (s.slot kind).generation) :
      Acts s (.fire number) kind

/-- **Every event acts on a slot or leaves its part alone.** -/
theorem Event.samePart_or_acts (e : Event) (s : Scheduler) (kind : TimerKind) :
    SamePart kind s (e.after s) ∨ Acts s e kind := by
  cases e with
  | startPomodoro work rest =>
    rcases startPomodoro_cases s work rest with ⟨-, h⟩ | ⟨hsucceeds, hidle, l, -, -, h⟩
    · rw [h]
      exact .inl (.refl s kind)
    · cases kind with
      | pomodoro => exact .inr (.session hsucceeds hidle h)
      | countdown =>
        -- to note the lengths of a session is not part of the other slot
        have hnoted : SamePart .countdown s
            { s with pomodoro := { s.pomodoro with length := some l } } := ⟨rfl, rfl, rfl⟩
        rw [h]
        exact .inl (hnoted.trans (samePart_arm _ (by decide) _ _ fun _ ↦ rfl))
  | startCountdown minutes message =>
    rcases startCountdown_cases s minutes message with ⟨-, h⟩ | ⟨hsucceeds, hidle, m, -, h⟩
    · rw [h]
      exact .inl (.refl s kind)
    · cases kind with
      | pomodoro =>
        rw [h]
        exact .inl (samePart_arm s (by decide) _ _ fun _ ↦ rfl)
      | countdown => exact .inr (.countdown hsucceeds hidle h)
  | stop owner =>
    rw [after_stop]
    split
    · exact .inl (.refl s kind)
    · next hbusy =>
      by_cases hkind : kind = owner
      · subst hkind
        exact .inr (.stop hbusy)
      · -- to note which timer was cancelled is not part of any slot
        have hreleased : SamePart kind s (s.release owner) := samePart_setSlot s hkind _
        exact .inl (hreleased.trans ⟨by cases kind <;> rfl, rfl, rfl⟩)
  | remind now time message =>
    rcases after_remind s now time message with h | ⟨delay, text, h⟩ <;> rw [h]
    · exact .inl (.refl s kind)
    · exact .inl (samePart_start s delay rfl)
  | fire number =>
    rw [after_fire, Scheduler.fire]
    split
    · next t ht =>
      by_cases hcurrent : t.callback.generation? kind = some (s.slot kind).generation
      · exact .inr (.callback ht hcurrent)
      · exact .inl (samePart_react hcurrent)
    · exact .inl (.refl s kind)

/-- Only a callback that remembers the current count of a slot raises an alert of it. -/
theorem Event.alertsOf_or_callback (e : Event) (s : Scheduler) (kind : TimerKind) :
    (e.after s).alertsOf kind = s.alertsOf kind ∨
      ∃ number t, e = .fire number ∧ s.timers[number]? = some t ∧
        t.callback.generation? kind = some (s.slot kind).generation := by
  rcases e.samePart_or_acts s kind with hsame | hacts
  · exact .inl hsame.alerts
  · cases hacts with
    | session _ _ after =>
      rw [after]
      exact .inl rfl
    | countdown _ _ after =>
      rw [after]
      exact .inl rfl
    | stop busy =>
      rw [after_stop, if_neg busy]
      exact .inl (alertsOf_setSlot s kind kind _)
    | callback timer current => exact .inr ⟨_, _, rfl, timer, current⟩

/-- In an idle slot no callback remembers the current count. -/
theorem Counted.not_current {s : Scheduler} {kind : TimerKind} (h : Counted s kind)
    (hidle : (s.slot kind).phase = .idle) {number : Nat} {t : Timer}
    (ht : s.timers[number]? = some t) :
    t.callback.generation? kind ≠ some (s.slot kind).generation := by
  intro hcurrent
  have hheld := (h.handle_iff number).2 ⟨t, ht, hcurrent⟩
  rw [h.idle_iff.1 hidle] at hheld
  exact absurd hheld (by simp)

/-! ### Sessions -/

/-- The phase of a session after so many alerts. -/
def phaseAfter (k : Nat) : Phase := if k % 2 = 0 then .work else .rest

/-- The alerts of a session in turn. -/
def sessionAlert (k : Nat) : Alert :=
  if k % 2 = 0 then ⟨"Work Session Over!", "Time for your break session."⟩
  else ⟨"Break Session Over!", "Time for your work session."⟩

/-- The delays of the timers of a session in turn, in seconds. -/
def sessionDelay (l : SessionLength) (k : Nat) : Float :=
  if k % 2 = 0 then l.work * 60.0 else l.rest * 60.0

theorem next_phaseAfter (k : Nat) : (phaseAfter k).next = phaseAfter (k + 1) := by
  rcases Nat.mod_two_eq_zero_or_one k with h | h
  · rw [phaseAfter, if_pos h, phaseAfter, if_neg (by omega)]
    rfl
  · rw [phaseAfter, if_neg (by omega), phaseAfter, if_pos (by omega)]
    rfl

theorem phaseAfter_ne_idle (k : Nat) : phaseAfter k ≠ .idle := by
  rw [phaseAfter]
  split <;> decide

theorem minutes_phaseAfter (l : SessionLength) (k : Nat) :
    l.minutes (phaseAfter k) * 60.0 = sessionDelay l k := by
  rw [phaseAfter, sessionDelay]
  split <;> rfl

theorem sessionAlert_eq (k : Nat) :
    sessionAlert k = ⟨(phaseAfter k).title ++ " Session Over!",
      "Time for your " ++ (phaseAfter k).next.name ++ " session."⟩ := by
  rw [phaseAfter, sessionAlert]
  split <;> decide

theorem title_sessionAlert_mem (k : Nat) :
    (phaseAfter k).title ++ " Session Over!" ∈ TimerKind.pomodoro.titles := by
  rw [phaseAfter]
  split <;> decide

/-- **A session in progress**, with the lengths `l`: it was started in `s₀`, and has raised `k`
alerts since. -/
structure InSession (s₀ : Scheduler) (l : SessionLength) (k : Nat) (s : Scheduler) : Prop where
  counted : Counted s .pomodoro
  alerts : s.alertsOf .pomodoro = s₀.alertsOf .pomodoro ++ (List.range k).map sessionAlert
  delays : (s.timersOf .pomodoro).map (·.delay) =
    (s₀.timersOf .pomodoro).map (·.delay) ++ (List.range (k + 1)).map (sessionDelay l)
  phase : s.pomodoro.phase = phaseAfter k
  length : s.pomodoro.length = some l
  /-- The callback that remembers the current count ends the current phase. -/
  pending : ∀ t ∈ s.timersOf .pomodoro, ∀ p, t.callback = .phaseOver p s.pomodoro.generation →
    p = phaseAfter k

/-- To begin a phase of a session starts one timer, with the length of the phase. -/
theorem timersOf_runPhase {s : Scheduler} {l : SessionLength} (h : s.pomodoro.length = some l)
    (k : Nat) : (s.runPhase (phaseAfter k)).timersOf .pomodoro =
      s.timersOf .pomodoro ++
        [⟨sessionDelay l k, .phaseOver (phaseAfter k) (s.pomodoro.generation + 1)⟩] := by
  rw [runPhase, arm, timersOf_start, timersOf_setSlot, h, Option.getD_some, minutes_phaseAfter]
  rfl

/-- Beginning a phase makes a session of `k` alerts out of anything that has raised so many, and has
started one timer for each. -/
theorem inSession_runPhase {s₀ s : Scheduler} {l : SessionLength} {k : Nat}
    (hcounted : Counted s .pomodoro) (hlength : s.pomodoro.length = some l)
    (halerts : s.alertsOf .pomodoro = s₀.alertsOf .pomodoro ++ (List.range k).map sessionAlert)
    (hdelays : (s.timersOf .pomodoro).map (·.delay) =
      (s₀.timersOf .pomodoro).map (·.delay) ++ (List.range k).map (sessionDelay l)) :
    InSession s₀ l k (s.runPhase (phaseAfter k)) where
  counted := by
    have hmem : phaseAfter k ∈ TimerKind.pomodoro.phases := by
      rw [phaseAfter]
      split <;> decide
    exact hcounted.of_turn (turn_runPhase s hmem (phaseAfter_ne_idle k) .pomodoro)
  alerts := halerts
  delays := by
    rw [timersOf_runPhase hlength, List.map_append, hdelays, List.range_succ, List.map_append,
      List.append_assoc]
    rfl
  phase := rfl
  length := hlength
  pending t ht p hp := by
    rw [timersOf_runPhase hlength] at ht
    rcases List.mem_append.1 ht with hold | hnew
    · -- an old timer does not remember the new count
      have hle : s.pomodoro.generation + 1 ≤ s.pomodoro.generation :=
        hcounted.le_generation t (List.mem_filter.1 hold).1 _ (by rw [hp]; rfl)
      omega
    · obtain rfl := List.mem_singleton.1 hnew
      exact (Callback.phaseOver.inj hp).1.symm

/-- A session begins with work. -/
theorem inSession_start {s : Scheduler} (hcounted : Counted s .pomodoro) (l : SessionLength) :
    InSession s l 0
      ({ s with pomodoro := { s.pomodoro with length := some l } }.runPhase .work) :=
  inSession_runPhase (k := 0)
    (hcounted.of_turn ((Turn.refl _ s).to_sameSlots (sameSlots_length s (some l)))) rfl
    (List.append_nil _).symm (List.append_nil _).symm

/-- The end of a phase raises the next alert of the session and begins the next phase. -/
theorem InSession.phaseOver {s₀ s : Scheduler} {l : SessionLength} {k : Nat}
    (h : InSession s₀ l k s) :
    InSession s₀ l (k + 1) (s.react (.phaseOver (phaseAfter k) s.pomodoro.generation)) := by
  rw [react, if_pos rfl, next_phaseAfter]
  refine inSession_runPhase
    (h.counted.of_turn ((Turn.refl _ s).to_sameSlots (sameSlots_alert s _ _))) h.length ?_ h.delays
  rw [alertsOf_alert, if_pos (title_sessionAlert_mem k), h.alerts, List.range_succ,
    List.map_append, List.append_assoc, List.map_singleton, sessionAlert_eq, next_phaseAfter]

/-- **A session goes on** through everything but its stop: it stays as it is, or its phase ends. -/
theorem InSession.after {s₀ s : Scheduler} {l : SessionLength} {k : Nat} (h : InSession s₀ l k s)
    {e : Event} (hstop : e ≠ .stop .pomodoro) : ∃ k', InSession s₀ l k' (e.after s) := by
  rcases e.samePart_or_acts s .pomodoro with hsame | hacts
  · have hslot : (e.after s).pomodoro = s.pomodoro := hsame.slot
    refine ⟨k, h.counted.of_turn (e.turn s .pomodoro), ?_, ?_, ?_, ?_, ?_⟩
    · rw [hsame.alerts, h.alerts]
    · rw [hsame.timers, h.delays]
    · rw [hslot, h.phase]
    · rw [hslot, h.length]
    · rw [hslot, hsame.timers]
      exact h.pending
  · cases hacts with
    | session _ idle => exact absurd (h.phase ▸ idle) (phaseAfter_ne_idle k)
    | stop => exact absurd rfl hstop
    | @callback _ number t timer current =>
      -- the callback that remembers the current count is the one that ends the current phase
      obtain ⟨p, hc⟩ := Callback.exists_phaseOver current
      have hmem : t ∈ s.timersOf .pomodoro :=
        List.mem_filter.2 ⟨List.mem_of_getElem? timer, by rw [current]; rfl⟩
      obtain rfl := h.pending t hmem p hc
      rw [after_fire, fire_of_getElem? timer, hc]
      exact ⟨k + 1, h.phaseOver⟩

/-- A slot is stopped at a moment. -/
def IsStopped (kind : TimerKind) (m : Scheduler × Event) : Prop :=
  m.2 = .stop kind ∧ m.2.succeeds m.1 = true

/-- A session goes on until it is stopped. -/
theorem InSession.run {s₀ s : Scheduler} {l : SessionLength} {k : Nat} (h : InSession s₀ l k s)
    (events : List Event) (hstop : ∀ m ∈ s.moments events, ¬ IsStopped .pomodoro m) :
    ∃ k', InSession s₀ l k' (s.run events) := by
  induction events generalizing s k with
  | nil => exact ⟨k, h⟩
  | cons e events ih =>
    obtain ⟨hfirst, hlater⟩ := List.forall_mem_cons.1 hstop
    have hne : e ≠ .stop .pomodoro := by
      rintro rfl
      refine hfirst ⟨rfl, (succeeds_stop s .pomodoro).2 ?_⟩
      exact fun hidle ↦ phaseAfter_ne_idle k (h.phase.symm.trans hidle)
    obtain ⟨k', h'⟩ := h.after hne
    exact ih h' hlater

/-! ### Outside of sessions -/

/-- The run ends within a session: one was started and not stopped since. -/
def EndsInSession (s : Scheduler) (events : List Event) : Prop :=
  ∃ before work rest during, events = before ++ .startPomodoro work rest :: during ∧
    (Event.startPomodoro work rest).succeeds (s.run before) = true ∧
    ∀ m ∈ ((Event.startPomodoro work rest).after (s.run before)).moments during,
      ¬ IsStopped .pomodoro m

/-- One more event leaves the run within its session, if it does not stop it. -/
theorem EndsInSession.append {s : Scheduler} {events : List Event} (h : s.EndsInSession events)
    {e : Event} (hstop : ¬ IsStopped .pomodoro (s.run events, e)) :
    s.EndsInSession (events ++ [e]) := by
  obtain ⟨before, work, rest, during, rfl, hstart, hduring⟩ := h
  refine ⟨before, work, rest, during ++ [e], by simp, hstart, ?_⟩
  rw [moments_append_singleton]
  intro m hm
  rcases List.mem_append.1 hm with hm | hm
  · exact hduring m hm
  · obtain rfl := List.mem_singleton.1 hm
    rwa [run, List.foldl_append] at hstop

/-- **Outside of sessions the slot is idle.** -/
theorem idle_or_endsInSession (defaults : SessionLength) (events : List Event) :
    (({ defaults } : Scheduler).run events).pomodoro.phase = .idle ∨
      ({ defaults } : Scheduler).EndsInSession events := by
  induction events using List.reverseRecOn with
  | nil => exact .inl rfl
  | append_singleton events e ih =>
    have hcounted := counted_run defaults events .pomodoro
    rw [run_append_singleton]
    generalize hs : ({ defaults } : Scheduler).run events = s at ih hcounted ⊢
    rcases ih with hidle | hsession
    · rcases e.samePart_or_acts s .pomodoro with hsame | hacts
      · exact .inl ((congrArg Slot.phase hsame.slot).trans hidle)
      · cases hacts with
        | @session work rest l succeeds =>
          exact .inr ⟨events, work, rest, [], rfl, by rwa [hs], by simp [moments]⟩
        | stop busy => exact absurd hidle busy
        | callback timer current => exact absurd current (hcounted.not_current hidle timer)
    · by_cases hstop : IsStopped .pomodoro (s, e)
      · obtain ⟨rfl, hsucceeds⟩ := hstop
        rw [after_stop, if_neg ((succeeds_stop s .pomodoro).1 hsucceeds)]
        exact .inl rfl
      · exact .inr (hsession.append (by rwa [hs]))

/-! ### Countdowns -/

/-- The alerts that the callback of a timer raised in a history. -/
def raisedBy (number : Nat) (history : List (Scheduler × Event)) : List Alert :=
  history.flatMap fun m ↦
    if m.2 = .fire number then (m.2.after m.1).alerts.drop m.1.alerts.length else []

theorem Turn.generation_le {s s' : Scheduler} {kind : TimerKind} (turn : Turn kind s s') :
    (s.slot kind).generation ≤ (s'.slot kind).generation := by
  cases turn with
  | leave _ _ _ _ _ generation => exact Nat.le_of_eq generation.symm
  | arm _ _ _ _ _ _ generation => omega
  | empty _ _ _ generation => omega

/-- Timers keep their numbers in a run. -/
theorem getElem?_timers_run {s : Scheduler} {number : Nat} {t : Timer}
    (h : s.timers[number]? = some t) (events : List Event) :
    (s.run events).timers[number]? = some t := by
  induction events generalizing s with
  | nil => exact h
  | cons e events ih => exact ih ((e.turn s .pomodoro).getElem?_timers h)

/-- The count of a slot never goes back. -/
theorem generation_le_run (s : Scheduler) (kind : TimerKind) (events : List Event) :
    (s.slot kind).generation ≤ ((s.run events).slot kind).generation := by
  induction events generalizing s with
  | nil => exact Nat.le_refl _
  | cons e events ih => exact Nat.le_trans (e.turn s kind).generation_le (ih (e.after s))

section Countdown

variable {s : Scheduler} {number g : Nat} {delay : Float} {text : String}

theorem react_countdownOver (s : Scheduler) (text : String) :
    s.react (.countdownOver s.countdown.generation text) =
      (s.release .countdown).alert "Timer Complete!" text := by
  rw [react, if_pos rfl]

/-- The callback of a countdown that is over raises nothing any more. -/
theorem raisedBy_of_lt (ht : s.timers[number]? = some ⟨delay, .countdownOver g text⟩)
    (hlt : g < s.countdown.generation) (events : List Event) :
    raisedBy number (s.moments events) = [] := by
  induction events generalizing s with
  | nil => rfl
  | cons e events ih =>
    have hturn := e.turn s .countdown
    have hnext := ih (hturn.getElem?_timers ht) (Nat.lt_of_lt_of_le hlt hturn.generation_le)
    rw [moments, raisedBy, List.flatMap_cons, ← raisedBy, hnext, List.append_nil]
    split
    · next hfire =>
      obtain rfl : e = .fire number := hfire
      have hstale : s.fire number = s := by
        have hown : (Callback.countdownOver g text).generation? .countdown = some g := rfl
        rw [fire_of_getElem? ht]
        exact react_of_ne hown (Nat.ne_of_lt hlt)
      rw [after_fire, hstale, List.drop_length]
    · rfl

/-- **The callback of a countdown raises its own message at most once.** -/
theorem raisedBy_sublist (ht : s.timers[number]? = some ⟨delay, .countdownOver g text⟩)
    (hle : g ≤ s.countdown.generation) (events : List Event) :
    (raisedBy number (s.moments events)).Sublist [⟨"Timer Complete!", text⟩] := by
  induction events generalizing s with
  | nil => exact List.nil_sublist _
  | cons e events ih =>
    rcases Nat.lt_or_eq_of_le hle with hlt | rfl
    · rw [raisedBy_of_lt ht hlt]
      exact List.nil_sublist _
    · have hturn := e.turn s .countdown
      have ht' := hturn.getElem?_timers ht
      rw [moments, raisedBy, List.flatMap_cons, ← raisedBy]
      split
      · next hfire =>
        -- the countdown is over now, so that nothing more follows
        obtain rfl : e = .fire number := hfire
        have hafter : (Event.fire number).after s =
            (s.release .countdown).alert "Timer Complete!" text := by
          rw [after_fire, fire_of_getElem? ht, react_countdownOver]
        have hlt : s.countdown.generation < ((Event.fire number).after s).countdown.generation := by
          rw [hafter]
          exact Nat.lt_succ_self _
        rw [raisedBy_of_lt ht' hlt, List.append_nil, hafter]
        show (List.drop s.alerts.length (s.alerts ++ [⟨"Timer Complete!", text⟩])).Sublist _
        exact List.drop_left ▸ List.Sublist.refl _
      · exact ih ht' hturn.generation_le

end Countdown

/-- A new timer of the countdown slot comes from the start of a countdown. -/
theorem startCountdown_of_owns {s : Scheduler} {e : Event} {number : Nat}
    (hcounted : Counted s .countdown) (hnew : s.timers.length ≤ number)
    (howns : (e.after s).Owns .countdown number) :
    number = s.timers.length ∧ ∃ minutes message, e = .startCountdown minutes message ∧
      (Event.startCountdown minutes message).succeeds s = true := by
  -- the slot holds the new timer, which it cannot have held before
  have hheld := (e.turn s .countdown).handle_eq hnew howns
  have hlt := howns.lt_length
  rcases e.samePart_or_acts s .countdown with hsame | hacts
  · rw [hsame.slot] at hheld
    exact absurd (hcounted.owns_of_held hheld).lt_length (by omega)
  · cases hacts with
    | @countdown minutes message m succeeds _ after =>
      rw [after] at hlt
      simp only [arm, timers_start, timers_setSlot, List.length_append,
        List.length_singleton] at hlt
      exact ⟨by omega, minutes, message, rfl, succeeds⟩
    | stop busy =>
      rw [after_stop, if_neg busy] at hheld
      exact absurd hheld (by simp [slot, release, setSlot])
    | @callback _ other t timer current =>
      obtain ⟨text, hc⟩ := Callback.exists_countdownOver current
      rw [after_fire, fire_of_getElem? timer, hc] at hheld
      have hreact : s.react (.countdownOver (s.slot .countdown).generation text) =
          (s.release .countdown).alert "Timer Complete!" text := react_countdownOver s text
      rw [hreact, slot_alert] at hheld
      exact absurd hheld (by simp [slot, release, setSlot])

/-- The timer of a number was started by a countdown. -/
def StartedByCountdown (s : Scheduler) (events : List Event) (number : Nat) : Prop :=
  ∃ before minutes message during, events = before ++ .startCountdown minutes message :: during ∧
    (Event.startCountdown minutes message).succeeds (s.run before) = true ∧
    number = (s.run before).timers.length

/-- **Every timer of the countdown slot was started by a countdown.** -/
theorem startedByCountdown_of_owns (defaults : SessionLength) (events : List Event) {number : Nat}
    (h : (({ defaults } : Scheduler).run events).Owns .countdown number) :
    ({ defaults } : Scheduler).StartedByCountdown events number := by
  induction events using List.reverseRecOn with
  | nil => exact absurd h.lt_length (Nat.not_lt_zero number)
  | append_singleton events e ih =>
    rw [run_append_singleton] at h
    rcases Nat.lt_or_ge number (({ defaults } : Scheduler).run events).timers.length with hlt | hge
    · obtain ⟨before, minutes, message, during, rfl, hrest⟩ := ih (h.of_turn (e.turn _ _) hlt)
      exact ⟨before, minutes, message, during ++ [e], by simp, hrest⟩
    · obtain ⟨hnumber, minutes, message, rfl, hsucceeds⟩ :=
        startCountdown_of_owns (counted_run defaults events .countdown) hge h
      exact ⟨events, minutes, message, [], rfl, hsucceeds, hnumber⟩

/-! ### The main statement -/

/-- The lengths that a session has by default stay as they are. -/
theorem defaults_after (e : Event) (s : Scheduler) : (e.after s).defaults = s.defaults := by
  have hsetSlot : ∀ (s : Scheduler) kind slot, (s.setSlot kind slot).defaults = s.defaults := by
    intro s kind slot
    cases kind <;> rfl
  cases e with
  | startPomodoro work rest =>
    rcases after_startPomodoro s work rest with h | ⟨-, l, h⟩ <;> rw [h]
    rfl
  | startCountdown minutes message =>
    rcases after_startCountdown s minutes message with h | ⟨-, m, text, h⟩ <;> rw [h]
    rfl
  | stop kind =>
    rw [after_stop]
    split
    · rfl
    · exact hsetSlot s kind _
  | remind now time message =>
    rcases after_remind s now time message with h | ⟨delay, text, h⟩ <;> rw [h]
    rfl
  | fire number =>
    rw [after_fire, fire]
    split
    · next t ht =>
      cases t.callback <;> rw [react] <;> first | rfl | split <;> rfl
    · rfl

theorem defaults_run (s : Scheduler) (events : List Event) :
    (s.run events).defaults = s.defaults := by
  induction events generalizing s with
  | nil => rfl
  | cons e events ih => exact (ih (e.after s)).trans (defaults_after e s)

/-- **The traces of both slots.** Take any run from a fresh scheduler.

* Where a session is started, and for as long as it is not stopped, its alerts are those of work and
  break in turn; their number says which phase it is in; and it has started one timer more than it
  has raised alerts, with its own two lengths in turn.
* Where no session is in progress, nothing raises an alert of a session.
* Where a countdown is started, its timer raises at most one alert, with the message of this
  countdown, and none after a countdown was stopped.
* Nothing else raises an alert of a countdown. -/
theorem traces_run (defaults : SessionLength) (before : List Event) :
    let start : Scheduler := { defaults }
    let s := start.run before
    (∀ work rest during, (Event.startPomodoro work rest).succeeds s = true →
      let s₁ := (Event.startPomodoro work rest).after s
      (∀ m ∈ s₁.moments during, ¬ IsStopped .pomodoro m) →
      ∃ (l : SessionLength) (k : Nat),
        Timer.minutesOf work (.double defaults.work) = .ok l.work ∧
        Timer.minutesOf rest (.double defaults.rest) = .ok l.rest ∧
        (s₁.run during).alertsOf .pomodoro =
          s.alertsOf .pomodoro ++ (List.range k).map sessionAlert ∧
        (s₁.run during).pomodoro.phase = phaseAfter k ∧
        ((s₁.run during).timersOf .pomodoro).map (·.delay) =
          (s.timersOf .pomodoro).map (·.delay) ++ (List.range (k + 1)).map (sessionDelay l)) ∧
    (∀ e, ¬ start.EndsInSession before →
      (Event.after e s).alertsOf .pomodoro = s.alertsOf .pomodoro) ∧
    (∀ minutes message during, (Event.startCountdown minutes message).succeeds s = true →
      let s₁ := (Event.startCountdown minutes message).after s
      let number := s.timers.length
      (raisedBy number (s₁.moments during)).Sublist
          [⟨"Timer Complete!", completion message⟩] ∧
        ∀ earlier later, during = earlier ++ .stop .countdown :: later →
          (Event.stop .countdown).succeeds (s₁.run earlier) = true →
          raisedBy number
            (((Event.stop .countdown).after (s₁.run earlier)).moments later) = []) ∧
    ∀ e, (Event.after e s).alertsOf .countdown ≠ s.alertsOf .countdown →
      ∃ number, e = .fire number ∧ start.StartedByCountdown before number := by
  intro start s
  have hcounted : ∀ kind, Counted s kind := counted_run defaults before
  have hdefaults : s.defaults = defaults := defaults_run start before
  refine ⟨fun work rest during hsucceeds ↦ ?_, fun e houtside ↦ ?_,
    fun minutes message during hsucceeds ↦ ?_, fun e hne ↦ ?_⟩
  · intro s₁ hstop
    rcases startPomodoro_cases s work rest with ⟨hfails, -⟩ | ⟨-, -, l, hwork, hrest, hafter⟩
    · exact absurd hfails (by simp [hsucceeds])
    · have hsession : InSession s l 0 s₁ := by
        show InSession s l 0 ((Event.startPomodoro work rest).after s)
        rw [hafter]
        exact inSession_start (hcounted .pomodoro) l
      obtain ⟨k, hk⟩ := hsession.run during hstop
      exact ⟨l, k, hdefaults ▸ hwork, hdefaults ▸ hrest, hk.alerts, hk.phase, hk.delays⟩
  · have hidle : s.pomodoro.phase = .idle :=
      (idle_or_endsInSession defaults before).resolve_right houtside
    rcases e.alertsOf_or_callback s .pomodoro with heq | ⟨number, t, -, ht, hcurrent⟩
    · exact heq
    · exact absurd hcurrent ((hcounted .pomodoro).not_current hidle ht)
  · intro s₁ number
    rcases startCountdown_cases s minutes message with ⟨hfails, -⟩ | ⟨-, -, m, -, hafter⟩
    · exact absurd hfails (by simp [hsucceeds])
    · -- the new timer remembers the count that the slot has then
      have hs₁ : s₁ = s.arm .countdown .running m (.countdownOver · (completion message)) := hafter
      have ht : s₁.timers[number]? =
          some ⟨m * 60.0, .countdownOver s₁.countdown.generation (completion message)⟩ := by
        rw [hs₁]
        exact List.getElem?_concat_length
      refine ⟨raisedBy_sublist ht (Nat.le_refl _) during, ?_⟩
      intro earlier later _ hstop
      have ht' := (Event.turn (.stop .countdown) (s₁.run earlier) .countdown).getElem?_timers
        (getElem?_timers_run ht earlier)
      refine raisedBy_of_lt ht' ?_ later
      -- the stop moves the count on, past the one that the callback remembers
      rw [after_stop, if_neg ((succeeds_stop _ _).1 hstop)]
      exact Nat.lt_succ_of_le (generation_le_run s₁ .countdown earlier)
  · rcases e.alertsOf_or_callback s .countdown with heq | ⟨number, t, hfire, ht, hcurrent⟩
    · exact absurd heq hne
    · exact ⟨number, hfire, startedByCountdown_of_owns defaults before
        ⟨t, ht, by rw [hcurrent]; rfl⟩⟩

example : (({ defaults := ⟨25.0, 5.0⟩ } : Scheduler).run
    [.startPomodoro .null .null, .fire 0, .fire 0, .fire 1]).alerts =
    [sessionAlert 0, sessionAlert 1] := by decide +kernel

end Scheduler

end Organizer
