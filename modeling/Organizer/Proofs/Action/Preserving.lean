import Organizer.Proofs.Action.Refusing

/-!
# Invariants of actions

An invariant of a state is carried through an action from its parts. `Ensures I p` says that the
action leads from states with the invariant `I` to such states, even if it fails, and that what it
answers has the property `p`. The property is how a later part of a sequence learns what an earlier
one has found: an action that looks at a state answers with what the invariant says of it.
-/

namespace Organizer.Action

variable {σ τ α β : Type} {I : σ → Prop} {p : α → Prop} {q : β → Prop}

/-- From every state with the invariant the action leads to one with it, and what it answers there
has the property. -/
def Ensures (I : σ → Prop) (p : α → Prop) (a : Action σ α) : Prop :=
  ∀ s, I s → I (a.perform s).2 ∧ Yields p (a.perform s).1

/-- The action keeps the invariant, whatever comes of it. -/
abbrev Preserves (I : σ → Prop) (a : Action σ α) : Prop := Ensures I (fun _ ↦ True) a

theorem Yields.anything (r : Except Failure α) : Yields (fun _ ↦ True) r := fun _ _ ↦ trivial

/-- What comes of a sequence, with what is known of its first part. -/
theorem Yields.bind_of_yields {r : Except Failure α} {f : α → Except Failure β} (hr : Yields p r)
    (hf : ∀ x, p x → Yields q (f x)) : Yields q (r >>= f) := by
  intro y hy
  obtain ⟨x, hx, hy⟩ := bind_eq_ok hy
  exact hf x (hr x hx) y hy

namespace Ensures

/-! ### Single actions -/

/-- An action that leaves the state alone has only to answer as it should. -/
theorem of_readOnly {a : Action σ α} (ha : ReadOnly a)
    (hp : ∀ s, I s → Yields p (a.perform s).1) : Ensures I p a := by
  intro s hs
  rw [ha s]
  exact ⟨hs, hp s hs⟩

theorem pure {x : α} (h : p x) : Ensures I p (pure x : Action σ α) :=
  of_readOnly (.pure x) fun _ _ ↦ .ok h

theorem refuse (reason : Refusal) : Ensures I p (refuse reason : Action σ α) :=
  of_readOnly (.refuse reason) fun _ _ ↦ .error _

theorem fail : Ensures I p (fail : Action σ α) :=
  of_readOnly (fun _ ↦ rfl) fun _ _ ↦ .error _

/-- The state that is looked at has the invariant. -/
theorem get : Ensures I I (get : Action σ σ) := of_readOnly .get fun _ hs ↦ .ok hs

theorem ofExcept {r : Except Failure α} (h : Yields p r) :
    Ensures I p (ofExcept r : Action σ α) :=
  of_readOnly (.ofExcept r) fun _ _ ↦ by rwa [perform_ofExcept]

theorem require {o : Option α} (h : ∀ x, o = some x → p x) :
    Ensures I p (require o : Action σ α) := by
  cases o with
  | none => exact fail
  | some x => exact pure (h x rfl)

theorem modify {f : σ → σ} (h : ∀ s, I s → I (f s)) :
    Preserves I (modify f : Action σ PUnit) :=
  fun s hs ↦ ⟨h s hs, .anything _⟩

/-! ### Composed actions -/

theorem bind {a : Action σ α} {f : α → Action σ β} (ha : Ensures I p a)
    (hf : ∀ x, p x → Ensures I q (f x)) : Ensures I q (a >>= f) := by
  intro s hs
  obtain ⟨ht, hx⟩ := ha s hs
  rcases h : a.perform s with ⟨e | x, t⟩
  · rw [perform_bind_of_error h]
    rw [h] at ht
    exact ⟨ht, .error e⟩
  · rw [perform_bind_of_ok h]
    rw [h] at ht hx
    exact hf x (hx x rfl) t ht

theorem ite {c : Prop} [Decidable c] {a b : Action σ α} (ha : c → Ensures I p a)
    (hb : ¬c → Ensures I p b) : Ensures I p (if c then a else b) := by
  split
  · exact ha ‹c›
  · exact hb ‹¬c›

theorem forM {xs : List α} {f : α → Action σ PUnit} (hf : ∀ x ∈ xs, Preserves I (f x)) :
    Preserves I (xs.forM f) := by
  induction xs with
  | nil => exact pure trivial
  | cons x xs ih =>
    exact (hf x List.mem_cons_self).bind fun _ _ ↦ ih fun y hy ↦ hf y (List.mem_cons_of_mem _ hy)

/-! ### Parts of a state -/

/-- What keeps an invariant of a part keeps one of the whole that asks no more of that part. -/
theorem within {J : τ → Prop} {part : τ → σ} {replace : σ → τ → τ} {a : Action σ α}
    (hpart : ∀ t, J t → I (part t)) (hreplace : ∀ s t, I s → J t → J (replace s t))
    (ha : Ensures I p a) : Ensures J p (within part replace a) := by
  intro t ht
  obtain ⟨hs, hp⟩ := ha (part t) (hpart t ht)
  rw [perform_within]
  exact ⟨hreplace _ t hs ht, hp⟩

end Ensures

/-- The invariant holds at the end of a sequence if it holds after the first part. -/
theorem holds_of_bind {a : Action σ α} {f : α → Action σ β} {s : σ} (ha : I (a.perform s).2)
    (hf : ∀ x, Preserves I (f x)) : I ((a >>= f).perform s).2 := by
  rw [perform_bind]
  rcases h : a.perform s with ⟨e | x, t⟩
  · rwa [h] at ha
  · rw [h] at ha
    exact (hf x t ha).1

end Organizer.Action
