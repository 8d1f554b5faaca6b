import Organizer.Action

/-!
# Performing actions

What `Action.perform` says about each way to build an action. With these lemmas an action is read
from its first part to its last without the monads that `Action` is made of: `simp` carries out what
is known of the state, and the two inversion lemmas (`perform_bind_eq_ok` and
`perform_bind_eq_error`) take an outcome of a sequence apart.
-/

namespace Organizer.Action

variable {σ τ α β : Type}

/-! ### Outcomes -/

theorem ok_bind (x : α) (f : α → Except Failure β) : (Except.ok x >>= f) = f x := rfl

/-- What goes right in a sequence has gone right in each of its parts. -/
theorem bind_eq_ok {r : Except Failure α} {f : α → Except Failure β} {y : β}
    (h : (r >>= f) = .ok y) : ∃ x, r = .ok x ∧ f x = .ok y := by
  cases r with
  | error e => exact absurd h (by simp [bind, Except.bind])
  | ok x => exact ⟨x, rfl, h⟩

/-- What goes right for each item goes right for all of them. -/
theorem exists_mapM_eq_ok {f : α → Except Failure β} {xs : List α}
    (h : ∀ x ∈ xs, ∃ y, f x = .ok y) : ∃ ys, xs.mapM f = .ok ys := by
  induction xs with
  | nil => exact ⟨[], rfl⟩
  | cons x xs ih =>
    obtain ⟨⟨y, hy⟩, hxs⟩ := List.forall_mem_cons.1 h
    obtain ⟨ys, hys⟩ := ih hxs
    exact ⟨y :: ys, by rw [List.mapM_cons, hy, ok_bind, hys]; rfl⟩

/-- What goes wrong for some items, and always in the same way, goes wrong for all of them. -/
theorem mapM_eq_error {f : α → Except Failure β} {e : Failure} {xs : List α}
    (h : ∀ x ∈ xs, (∃ y, f x = .ok y) ∨ f x = .error e) (hsome : ∃ x ∈ xs, f x = .error e) :
    xs.mapM f = .error e := by
  induction xs with
  | nil => simp at hsome
  | cons x xs ih =>
    obtain ⟨hx, hxs⟩ := List.forall_mem_cons.1 h
    rcases hx with ⟨y, hy⟩ | hx
    · have hrest : ∃ x ∈ xs, f x = .error e := by simpa [hy] using hsome
      rw [List.mapM_cons, hy, ok_bind, ih hxs hrest]
      rfl
    · rw [List.mapM_cons, hx]
      rfl

theorem exists_perform_eq {a : Action σ α} {s : σ} {r : Except Failure α}
    (h : (a.perform s).1 = r) : ∃ t, a.perform s = (r, t) :=
  ⟨_, Prod.ext h rfl⟩

/-! ### Single actions -/

@[simp] theorem perform_pure (a : α) (s : σ) : (pure a : Action σ α).perform s = (.ok a, s) := rfl

@[simp] theorem perform_throw (e : Failure) (s : σ) :
    (throw e : Action σ α).perform s = (.error e, s) := rfl

@[simp] theorem perform_refuse (reason : Refusal) (s : σ) :
    (refuse reason : Action σ α).perform s = (.error (.refused reason), s) := rfl

@[simp] theorem perform_fail (s : σ) : (fail : Action σ α).perform s = (.error .unexpected, s) :=
  rfl

@[simp] theorem perform_get (s : σ) : (get : Action σ σ).perform s = (.ok s, s) := rfl

@[simp] theorem perform_set (s t : σ) : (set t : Action σ PUnit).perform s = (.ok ⟨⟩, t) := rfl

@[simp] theorem perform_modify (f : σ → σ) (s : σ) :
    (modify f : Action σ PUnit).perform s = (.ok ⟨⟩, f s) := rfl

@[simp] theorem perform_ofExcept (r : Except Failure α) (s : σ) :
    (ofExcept r : Action σ α).perform s = (r, s) := by
  cases r <;> rfl

@[simp] theorem perform_require_some (a : α) (s : σ) :
    (require (some a) : Action σ α).perform s = (.ok a, s) := rfl

@[simp] theorem perform_require_none (s : σ) :
    (require none : Action σ α).perform s = (.error .unexpected, s) := rfl

@[simp] theorem perform_within (part : τ → σ) (replace : σ → τ → τ) (a : Action σ α) (t : τ) :
    (within part replace a).perform t =
      ((a.perform (part t)).1, replace (a.perform (part t)).2 t) := rfl

@[simp] theorem perform_ite (c : Prop) [Decidable c] (a b : Action σ α) (s : σ) :
    (if c then a else b).perform s = if c then a.perform s else b.perform s := by
  split <;> rfl

/-! ### Sequences -/

theorem perform_bind (a : Action σ α) (f : α → Action σ β) (s : σ) :
    (a >>= f).perform s =
      match a.perform s with
      | (.ok x, t) => (f x).perform t
      | (.error e, t) => (.error e, t) := by
  simp only [perform, ExceptT.run, StateT.run, bind, ExceptT.bind, ExceptT.mk, StateT.bind,
    ExceptT.bindCont]
  rcases a s with ⟨_ | x, t⟩ <;> rfl

@[simp] theorem perform_map (f : α → β) (a : Action σ α) (s : σ) :
    (f <$> a).perform s = ((a.perform s).1.map f, (a.perform s).2) := by
  rw [map_eq_pure_bind, perform_bind]
  rcases a.perform s with ⟨_ | x, t⟩ <;> rfl

@[simp] theorem perform_bind_of_ok {a : Action σ α} {f : α → Action σ β} {s t : σ} {x : α}
    (h : a.perform s = (.ok x, t)) : (a >>= f).perform s = (f x).perform t := by
  rw [perform_bind, h]

@[simp] theorem perform_bind_of_error {a : Action σ α} {f : α → Action σ β} {s t : σ} {e : Failure}
    (h : a.perform s = (.error e, t)) : (a >>= f).perform s = (.error e, t) := by
  rw [perform_bind, h]

theorem perform_ofExcept_bind_of_ok {r : Except Failure α} {f : α → Action σ β} {s : σ} {x : α}
    (h : r = .ok x) : (ofExcept r >>= f).perform s = (f x).perform s := by
  rw [h, perform_bind_of_ok (perform_ofExcept ..)]

theorem perform_ofExcept_bind_of_error {r : Except Failure α} {f : α → Action σ β} {s : σ}
    {e : Failure} (h : r = .error e) : (ofExcept r >>= f).perform s = (.error e, s) := by
  rw [h, perform_bind_of_error (perform_ofExcept ..)]

theorem perform_bind_eq_ok {a : Action σ α} {f : α → Action σ β} {s t : σ} {y : β} :
    (a >>= f).perform s = (.ok y, t) ↔
      ∃ x u, a.perform s = (.ok x, u) ∧ (f x).perform u = (.ok y, t) := by
  rw [perform_bind]
  rcases a.perform s with ⟨_ | x, u⟩
  · simp
  · simp only [Prod.mk.injEq, Except.ok.injEq]
    constructor
    · exact fun h ↦ ⟨x, u, ⟨rfl, rfl⟩, h⟩
    · rintro ⟨x, u, ⟨rfl, rfl⟩, h⟩
      exact h

theorem perform_bind_eq_error {a : Action σ α} {f : α → Action σ β} {s t : σ} {e : Failure} :
    (a >>= f).perform s = (.error e, t) ↔
      a.perform s = (.error e, t) ∨
        ∃ x u, a.perform s = (.ok x, u) ∧ (f x).perform u = (.error e, t) := by
  rw [perform_bind]
  rcases a.perform s with ⟨_ | x, u⟩
  · simp
  · simp only [Prod.mk.injEq, reduceCtorEq, false_and, Except.ok.injEq, false_or]
    constructor
    · exact fun h ↦ ⟨x, u, ⟨rfl, rfl⟩, h⟩
    · rintro ⟨x, u, ⟨rfl, rfl⟩, h⟩
      exact h

end Organizer.Action
