import Organizer.Proofs.Action.Preserving

/-!
# Two runs side by side

What an action depends on and what it can change are properties of two runs. `Alike R a b` says that
`a` and `b`, performed on states with the relation `R`, answer the same or fail alike, and leave
states with the relation again. The states may differ in all that the relation does not speak of,
and so the answer cannot depend on it.

An invariant of a single run is the case of a relation that holds of no two different states
(`Alike.of_preserves`). It is therefore enough to go through the commands once, for any relation.
-/

namespace Organizer.Action

variable {σ τ α β : Type} {R : σ → σ → Prop}

/-- On related states the actions answer the same or fail alike, and they leave related states. -/
def Alike (R : σ → σ → Prop) (a b : Action σ α) : Prop :=
  ∀ s t, R s t → (a.perform s).1 = (b.perform t).1 ∧ R (a.perform s).2 (b.perform t).2

namespace Alike

/-! ### Single actions -/

/-- Actions that leave the state alone have only to answer the same. -/
theorem of_readOnly {a b : Action σ α} (ha : ReadOnly a) (hb : ReadOnly b)
    (h : ∀ s t, R s t → (a.perform s).1 = (b.perform t).1) : Alike R a b := by
  intro s t hst
  rw [ha s, hb t]
  exact ⟨h s t hst, hst⟩

theorem pure (x : α) : Alike R (pure x : Action σ α) (pure x) :=
  of_readOnly (.pure x) (.pure x) fun _ _ _ ↦ rfl

theorem refuse (reason : Refusal) :
    Alike R (refuse reason : Action σ α) (refuse reason) :=
  of_readOnly (.refuse reason) (.refuse reason) fun _ _ _ ↦ rfl

theorem fail : Alike R (fail : Action σ α) fail :=
  of_readOnly (fun _ ↦ rfl) (fun _ ↦ rfl) fun _ _ _ ↦ rfl

theorem ofExcept (r : Except Failure α) :
    Alike R (Action.ofExcept r : Action σ α) (Action.ofExcept r) :=
  of_readOnly (.ofExcept r) (.ofExcept r) fun s t _ ↦ by
    rw [perform_ofExcept, perform_ofExcept]

theorem require (o : Option α) : Alike R (Action.require o : Action σ α) (Action.require o) :=
  of_readOnly (.require o) (.require o) fun _ _ _ ↦ by cases o <;> rfl

theorem modify {f g : σ → σ} (h : ∀ s t, R s t → R (f s) (g t)) :
    Alike R (modify f : Action σ PUnit) (modify g) :=
  fun s t hst ↦ ⟨rfl, h s t hst⟩

/-! ### Composed actions -/

/-- What follows has to be related only for answers that the first part can give. -/
theorem bind_of_yields {p : α → Prop} {a b : Action σ α} {f g : α → Action σ β}
    (hab : Alike R a b) (hp : ∀ s t, R s t → Yields p (a.perform s).1)
    (hfg : ∀ x, p x → Alike R (f x) (g x)) : Alike R (a >>= f) (b >>= g) := by
  intro s t hst
  obtain ⟨hresult, hstate⟩ := hab s t hst
  have hyields := hp s t hst
  rw [perform_bind, perform_bind]
  rcases ha : a.perform s with ⟨r, s'⟩
  rcases hb : b.perform t with ⟨r', t'⟩
  rw [ha, hb] at hresult hstate
  rw [ha] at hyields
  obtain rfl : r = r' := hresult
  cases r with
  | error e => exact ⟨rfl, hstate⟩
  | ok x => exact hfg x (hyields x rfl) s' t' hstate

theorem bind {a b : Action σ α} {f g : α → Action σ β} (hab : Alike R a b)
    (hfg : ∀ x, Alike R (f x) (g x)) : Alike R (a >>= f) (b >>= g) :=
  bind_of_yields (p := fun _ ↦ True) hab (fun _ _ _ _ _ ↦ trivial) fun x _ ↦ hfg x

/-- What follows depends on the states only as far as they are related. -/
theorem get_bind {f g : σ → Action σ β} (h : ∀ s t, R s t → Alike R (f s) (g t)) :
    Alike R (get >>= f) (get >>= g) := by
  intro s t hst
  rw [perform_bind_of_ok (perform_get s), perform_bind_of_ok (perform_get t)]
  exact h s t hst s t hst

theorem ite {c : Prop} [Decidable c] {a a' b b' : Action σ α} (ha : c → Alike R a a')
    (hb : ¬c → Alike R b b') : Alike R (if c then a else b) (if c then a' else b') := by
  split
  · exact ha ‹c›
  · exact hb ‹¬c›

theorem forM {xs : List α} {f : α → Action σ PUnit} (hf : ∀ x ∈ xs, Alike R (f x) (f x)) :
    Alike R (xs.forM f) (xs.forM f) := by
  induction xs with
  | nil => exact pure _
  | cons x xs ih =>
    exact .bind (hf x List.mem_cons_self) fun _ ↦ ih fun y hy ↦ hf y (List.mem_cons_of_mem _ hy)

/-! ### Parts of a state -/

/-- What is done to a part depends on that part. -/
theorem within {S : τ → τ → Prop} {part : τ → σ} {replace : σ → τ → τ} {a b : Action σ α}
    (hpart : ∀ t t', S t t' → R (part t) (part t'))
    (hreplace : ∀ s s' t t', R s s' → S t t' → S (replace s t) (replace s' t'))
    (hab : Alike R a b) :
    Alike S (Action.within part replace a) (Action.within part replace b) := by
  intro t t' htt
  obtain ⟨hresult, hstate⟩ := hab _ _ (hpart t t' htt)
  rw [perform_within, perform_within]
  exact ⟨hresult, hreplace _ _ t t' hstate htt⟩

/-! ### Single runs -/

/-- What is done twice to one state comes to the same. -/
theorem refl (a : Action σ α) : Alike (· = ·) a a := by
  rintro s _ rfl
  exact ⟨rfl, rfl⟩

/-- An invariant is a relation of states with themselves. -/
theorem of_preserves {I : σ → Prop} {a : Action σ α} (h : Preserves I a) :
    Alike (fun s t ↦ s = t ∧ I s) a a := by
  rintro s _ ⟨rfl, hs⟩
  exact ⟨rfl, rfl, (h s hs).1⟩

end Alike

end Organizer.Action
