import Organizer.Proofs.Action.Performing

/-!
# Refusals that change nothing

`Action` keeps the state of a failing action, so an action that writes first and is refused later
has written. Here are the rules by which an action is shown not to: `RefusesCleanly` says that a
refusal leaves the state as it was. It is composed from two halves. What comes before the last
possible refusal only looks at the state (`ReadOnly`); what comes after the first possible write is
never refused (`NeverRefuses`). Unexpected failures are outside of all this: they may come late.

`Answers` says what all answers of an action have in common, whatever the state.
-/

namespace Organizer.Action

variable {σ τ α β : Type}

/-- The outcome is no refusal. -/
def Unrefused (r : Except Failure α) : Prop := ∀ reason, r ≠ .error (.refused reason)

/-- What the outcome answers, if it answers, has a property. -/
def Yields (p : α → Prop) (r : Except Failure α) : Prop := ∀ x, r = .ok x → p x

/-- The action leaves the state as it is, whatever comes of it. -/
def ReadOnly (a : Action σ α) : Prop := ∀ s, (a.perform s).2 = s

/-- The action is never refused; it may fail unexpectedly. -/
def NeverRefuses (a : Action σ α) : Prop :=
  ∀ s t reason, a.perform s ≠ (.error (.refused reason), t)

/-- If the action is refused, the state is as it was. -/
def RefusesCleanly (a : Action σ α) : Prop :=
  ∀ s t reason, a.perform s = (.error (.refused reason), t) → t = s

/-- All answers of the action have a property. -/
def Answers (p : α → Prop) (a : Action σ α) : Prop := ∀ s t x, a.perform s = (.ok x, t) → p x

/-! ### Outcomes -/

namespace Unrefused

theorem ok (x : α) : Unrefused (.ok x) := fun _ ↦ by simp

theorem unexpected : Unrefused (.error .unexpected : Except Failure α) := fun _ ↦ by simp

theorem bind {r : Except Failure α} {f : α → Except Failure β} (hr : Unrefused r)
    (hf : ∀ x, Unrefused (f x)) : Unrefused (r >>= f) := by
  cases r with
  | error e => exact fun reason h ↦ hr reason (congrArg Except.error (Except.error.inj h))
  | ok x => exact hf x

theorem map {r : Except Failure α} (f : α → β) (hr : Unrefused r) : Unrefused (r.map f) := by
  cases r with
  | error e => exact fun reason h ↦ hr reason (congrArg Except.error (Except.error.inj h))
  | ok x => exact ok (f x)

end Unrefused

namespace Yields

variable {p : β → Prop}

theorem ok {x : β} (h : p x) : Yields p (.ok x) := fun _ hx ↦ Except.ok.inj hx ▸ h

theorem error (e : Failure) : Yields p (.error e) := fun _ hx ↦ absurd hx (by simp)

theorem bind {r : Except Failure α} {f : α → Except Failure β} (hf : ∀ x, Yields p (f x)) :
    Yields p (r >>= f) := by
  cases r with
  | error e => exact error e
  | ok x => exact hf x

theorem map {r : Except Failure α} {f : α → β} (hf : ∀ x, p (f x)) : Yields p (r.map f) := by
  cases r with
  | error e => exact error e
  | ok x => exact ok (hf x)

end Yields

/-! ### Looking -/

namespace ReadOnly

theorem pure (x : α) : ReadOnly (pure x : Action σ α) := fun _ ↦ rfl

theorem refuse (reason : Refusal) : ReadOnly (refuse reason : Action σ α) := fun _ ↦ rfl

theorem get : ReadOnly (get : Action σ σ) := fun _ ↦ rfl

theorem ofExcept (r : Except Failure α) : ReadOnly (ofExcept r : Action σ α) := by
  intro s
  rw [perform_ofExcept]

theorem require (o : Option α) : ReadOnly (require o : Action σ α) := by
  intro _
  cases o <;> rfl

theorem bind {a : Action σ α} {f : α → Action σ β} (ha : ReadOnly a) (hf : ∀ x, ReadOnly (f x)) :
    ReadOnly (a >>= f) := by
  intro s
  rcases h : a.perform s with ⟨_ | x, t⟩
  · rw [perform_bind_of_error h]
    exact (congrArg Prod.snd h).symm.trans (ha s)
  · rw [perform_bind_of_ok h, hf x t]
    exact (congrArg Prod.snd h).symm.trans (ha s)

theorem ite (c : Prop) [Decidable c] {a b : Action σ α} (ha : ReadOnly a) (hb : ReadOnly b) :
    ReadOnly (if c then a else b) := by
  split <;> assumption

theorem perform_snd {a : Action σ α} (ha : ReadOnly a) {s t : σ} {r : Except Failure α}
    (h : a.perform s = (r, t)) : t = s := by
  rw [← ha s, h]

end ReadOnly

/-! ### Never being refused -/

namespace NeverRefuses

theorem pure (x : α) : NeverRefuses (pure x : Action σ α) := fun _ _ _ ↦ by simp

theorem get : NeverRefuses (get : Action σ σ) := fun _ _ _ ↦ by simp

theorem set (s : σ) : NeverRefuses (set s : Action σ PUnit) := fun _ _ _ ↦ by simp

theorem modify (f : σ → σ) : NeverRefuses (modify f : Action σ PUnit) := fun _ _ _ ↦ by simp

theorem fail : NeverRefuses (fail : Action σ α) := fun _ _ _ ↦ by simp

theorem require (o : Option α) : NeverRefuses (require o : Action σ α) := by
  intro _ _ _
  cases o <;> simp

theorem ofExcept {r : Except Failure α} (h : Unrefused r) :
    NeverRefuses (ofExcept r : Action σ α) := by
  intro s t reason heq
  rw [perform_ofExcept] at heq
  exact h reason (congrArg Prod.fst heq)

theorem bind {a : Action σ α} {f : α → Action σ β} (ha : NeverRefuses a)
    (hf : ∀ x, NeverRefuses (f x)) : NeverRefuses (a >>= f) := by
  intro s t reason h
  rcases perform_bind_eq_error.1 h with h | ⟨x, u, -, h⟩
  · exact ha s t reason h
  · exact hf x u t reason h

theorem ite (c : Prop) [Decidable c] {a b : Action σ α} (ha : NeverRefuses a)
    (hb : NeverRefuses b) : NeverRefuses (if c then a else b) := by
  split <;> assumption

theorem within {part : τ → σ} {replace : σ → τ → τ} {a : Action σ α} (ha : NeverRefuses a) :
    NeverRefuses (within part replace a) := by
  intro t _ reason h
  rw [perform_within] at h
  exact ha (part t) _ reason (Prod.ext (Prod.mk.inj h).1 rfl)

theorem forM {xs : List α} {f : α → Action σ PUnit} (hf : ∀ x, NeverRefuses (f x)) :
    NeverRefuses (xs.forM f) := by
  induction xs with
  | nil => exact NeverRefuses.pure _
  | cons x xs ih => exact NeverRefuses.bind (hf x) fun _ ↦ ih

end NeverRefuses

/-! ### Being refused cleanly -/

theorem ReadOnly.refusesCleanly {a : Action σ α} (h : ReadOnly a) : RefusesCleanly a :=
  fun _ _ _ hp ↦ h.perform_snd hp

theorem NeverRefuses.refusesCleanly {a : Action σ α} (h : NeverRefuses a) : RefusesCleanly a :=
  fun s t reason hp ↦ absurd hp (h s t reason)

namespace RefusesCleanly

/-- First look, and then be refused cleanly. -/
theorem bind_of_readOnly {a : Action σ α} {f : α → Action σ β} (ha : ReadOnly a)
    (hf : ∀ x, RefusesCleanly (f x)) : RefusesCleanly (a >>= f) := by
  intro s t reason h
  rcases perform_bind_eq_error.1 h with h | ⟨x, u, hx, h⟩
  · exact ha.perform_snd h
  · rw [hf x u t reason h, ha.perform_snd hx]

/-- First be refused cleanly, and after that never again. -/
theorem bind_of_neverRefuses {a : Action σ α} {f : α → Action σ β} (ha : RefusesCleanly a)
    (hf : ∀ x, NeverRefuses (f x)) : RefusesCleanly (a >>= f) := by
  intro s t reason h
  rcases perform_bind_eq_error.1 h with h | ⟨x, u, -, h⟩
  · exact ha s t reason h
  · exact absurd h (hf x u t reason)

theorem ite (c : Prop) [Decidable c] {a b : Action σ α} (ha : RefusesCleanly a)
    (hb : RefusesCleanly b) : RefusesCleanly (if c then a else b) := by
  split <;> assumption

theorem within {part : τ → σ} {replace : σ → τ → τ} {a : Action σ α}
    (hreplace : ∀ t, replace (part t) t = t) (ha : RefusesCleanly a) :
    RefusesCleanly (within part replace a) := by
  intro t t' reason h
  rw [perform_within] at h
  have hpart : (a.perform (part t)).2 = part t :=
    ha (part t) _ reason (Prod.ext (Prod.mk.inj h).1 rfl)
  rw [← (Prod.mk.inj h).2, hpart, hreplace]

end RefusesCleanly

/-! ### Answers -/

namespace Answers

variable {p : β → Prop}

theorem pure {x : β} (h : p x) : Answers p (pure x : Action σ β) := by
  intro _ _ _ hp
  rw [perform_pure] at hp
  exact Except.ok.inj (congrArg Prod.fst hp) ▸ h

theorem refuse (reason : Refusal) : Answers p (refuse reason : Action σ β) := by
  intro _ _ _ hp
  exact absurd (congrArg Prod.fst hp) (by simp)

theorem ofExcept {r : Except Failure β} (h : Yields p r) :
    Answers p (ofExcept r : Action σ β) := by
  intro _ _ x hp
  rw [perform_ofExcept] at hp
  exact h x (congrArg Prod.fst hp)

/-- The last part of a sequence gives the answer. -/
theorem bind {a : Action σ α} {f : α → Action σ β} (hf : ∀ x, Answers p (f x)) :
    Answers p (a >>= f) := by
  intro s t y h
  obtain ⟨x, u, -, h⟩ := perform_bind_eq_ok.1 h
  exact hf x u t y h

theorem ite (c : Prop) [Decidable c] {a b : Action σ β} (ha : Answers p a) (hb : Answers p b) :
    Answers p (if c then a else b) := by
  split <;> assumption

theorem within {part : τ → σ} {replace : σ → τ → τ} {a : Action σ β} (ha : Answers p a) :
    Answers p (within part replace a) := by
  intro t _ x h
  rw [perform_within] at h
  exact ha (part t) _ x (Prod.ext (Prod.mk.inj h).1 rfl)

end Answers

end Organizer.Action
