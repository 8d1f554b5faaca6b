import Organizer.Proofs.Arithmetic.Outcomes

/-!
# The integers of a calculation stay small

No text makes the calculator build a huge integer (`integers_bounded`), powers apart, which are
estimated before they are built. Wherever an expression stands, its operands have at most `maxBits`
bits each; so a sum, a difference, a product, a remainder or an opposite number has at most twice as
many before it is checked, and at most `maxBits` again once it has been.

What one step builds follows from its operands alone: an operator has an integer for a value only
where both operands are integers (`size_of_apply`). The operands are values of expressions
themselves, so they have passed the check, and no induction is left to do: that was `evalWithin_succ`.

The limit on the digits of an answer is then out of reach. An integer that has passed the check has
at most 3011 digits, and a double that is written as an integer has fewer.
-/

namespace Organizer.Arithmetic

open Organizer.Arithmetic.Expr Number Text

/-! ### One step -/

/-- The expressions that are evaluated for an expression, each on its own. -/
def Expr.operands : Expr → List Expr
  | .positive e | .negative e => [e]
  | .binary _ left right => [left, right]
  | .whole _ | .double _ | .meaningless => []

/-- Is an integer built before anything looks at its size? A power is estimated first. -/
def Expr.buildsFirst : Expr → Bool
  | .negative _ => true
  | .binary op _ _ => op ∈ [Op.add, .sub, .mul, .mod]
  | .positive _ | .whole _ | .double _ | .meaningless => false

/-- The integers in the evaluation of one expression, when there is room for its operands. -/
structure Expr.IsBounded (room : ℕ) (e : Expr) : Prop where
  /-- Every operand is small, -/
  operands : ∀ p ∈ e.operands, ∀ n, p.evalWithin room = .ok (.whole n) → n.natAbs.size ≤ maxBits
  /-- what is built from them is of at most twice the size, -/
  built : e.buildsFirst = true → ∀ n, e.unchecked room = .ok (.whole n) →
    n.natAbs.size ≤ 2 * maxBits
  /-- nothing comes around the check, -/
  checked : e.evalWithin (room + 1) = e.unchecked room >>= fun v ↦ Halt.ofFault v.bounded
  /-- and what is handed on is small. -/
  value : ∀ n, e.evalWithin (room + 1) = .ok (.whole n) → n.natAbs.size ≤ maxBits

theorem size_of_evalWithin {room : ℕ} {e : Expr} {n : ℤ} (h : e.evalWithin room = .ok (.whole n)) :
    n.natAbs.size ≤ maxBits :=
  fits_whole_iff.1 (fits_of_evalWithin h)

/-- Two values that are combined to an integer are integers. -/
theorem whole_of_combine {whole : ℤ → ℤ → ℤ} {double : Float → Float → Float} {a b : Value} {n : ℤ}
    (h : Value.combine whole double a b = .ok (.whole n)) :
    ∃ l m, a = .whole l ∧ b = .whole m ∧ n = whole l m := by
  rw [Value.combine.eq_def] at h
  split at h
  · rename_i l m
    cases h
    exact ⟨l, m, rfl, rfl, rfl⟩
  · obtain ⟨x, -, h⟩ := ok_of_bind h
    obtain ⟨y, -, h⟩ := ok_of_bind h
    cases h

theorem whole_of_remainder {a b : Value} {n : ℤ} (h : Value.remainder a b = .ok (.whole n)) :
    ∃ l m, a = .whole l ∧ b = .whole m ∧ m ≠ 0 ∧ n = l.fmod m := by
  rw [Value.remainder.eq_def] at h
  split at h
  · rename_i l m
    split at h
    · cases h
    · rename_i hm
      cases h
      exact ⟨l, m, rfl, rfl, hm, rfl⟩
  · obtain ⟨x, -, h⟩ := ok_of_bind h
    obtain ⟨y, -, h⟩ := ok_of_bind h
    split at h <;> cases h

/-- A remainder is smaller than the divisor. -/
theorem natAbs_fmod_lt (l : ℤ) {m : ℤ} (hm : m ≠ 0) : (l.fmod m).natAbs < m.natAbs := by
  have hpositive (l : ℤ) {m : ℤ} (hm : 0 < m) : (l.fmod m).natAbs < m.natAbs := by
    have hlow := Int.fmod_nonneg_of_pos l hm
    have hhigh := Int.fmod_lt_of_pos l hm
    omega
  rcases lt_or_gt_of_ne hm with hneg | hpos
  · have hopposite := hpositive (-l) (Int.neg_pos_of_neg hneg)
    rwa [Int.neg_fmod_neg, Int.natAbs_neg, Int.natAbs_neg] at hopposite
  · exact hpositive l hpos

/-- An exact operator on operands of some size builds an integer of at most twice that size. -/
theorem size_of_apply {op : Op} (hop : op ∈ [Op.add, .sub, .mul, .mod]) {a b : Value} {k : ℕ}
    (hk : 0 < k) (ha : ∀ l, a = .whole l → l.natAbs.size ≤ k)
    (hb : ∀ m, b = .whole m → m.natAbs.size ≤ k) {n : ℤ} (h : op.apply a b = .ok (.whole n)) :
    n.natAbs.size ≤ 2 * k := by
  have hsum {l m : ℤ} {n : ℕ} (hl : l.natAbs.size ≤ k) (hm : m.natAbs.size ≤ k)
      (hn : n ≤ l.natAbs + m.natAbs) : n.size ≤ 2 * k :=
    (Nat.size_le_size hn).trans ((size_add_le hl hm).trans (by omega))
  cases op with
  | add =>
    obtain ⟨l, m, rfl, rfl, rfl⟩ := whole_of_combine h
    exact hsum (ha l rfl) (hb m rfl) (Int.natAbs_add_le l m)
  | sub =>
    obtain ⟨l, m, rfl, rfl, rfl⟩ := whole_of_combine h
    exact hsum (ha l rfl) (hb m rfl) (Int.natAbs_sub_le l m)
  | mul =>
    obtain ⟨l, m, rfl, rfl, rfl⟩ := whole_of_combine h
    calc (l * m).natAbs.size
        = (l.natAbs * m.natAbs).size := by rw [Int.natAbs_mul]
      _ ≤ l.natAbs.size + m.natAbs.size := size_mul_le _ _
      _ ≤ k + k := Nat.add_le_add (ha l rfl) (hb m rfl)
      _ = 2 * k := (Nat.two_mul k).symm
  | mod =>
    obtain ⟨l, m, rfl, rfl, hm, rfl⟩ := whole_of_remainder h
    exact (Nat.size_le_size (natAbs_fmod_lt l hm).le).trans ((hb m rfl).trans (by omega))
  | div | pow | wholeDiv => simp at hop

/-- **Every step of an evaluation is bounded**, whatever stands around it. -/
theorem Expr.isBounded (room : ℕ) (e : Expr) : e.IsBounded room where
  operands _ _ _ h := size_of_evalWithin h
  built hfirst n h := by
    cases e with
    | negative e =>
      obtain ⟨v, hv, h⟩ := ok_of_bind h
      cases v with
      | whole m =>
        obtain rfl : -m = n := Value.whole.inj (Except.ok.inj h)
        rw [Int.natAbs_neg]
        exact (size_of_evalWithin hv).trans (by decide)
      | double x => cases h
    | binary op left right =>
      have hop : op ∈ [Op.add, .sub, .mul, .mod] := of_decide_eq_true hfirst
      have hwhole : op ≠ .wholeDiv := by
        rintro rfl
        simp at hop
      rw [unchecked] at h
      · obtain ⟨a, ha, h⟩ := ok_of_bind h
        obtain ⟨b, hb, h⟩ := ok_of_bind h
        refine size_of_apply hop (by decide) ?_ ?_ (ok_of_ofFault h)
        · rintro l rfl
          exact size_of_evalWithin ha
        · rintro m rfl
          exact size_of_evalWithin hb
      · exact hwhole
    | whole m => cases hfirst
    | double x => cases hfirst
    | positive e => cases hfirst
    | meaningless => cases hfirst
  checked := evalWithin_succ room e
  value _ h := size_of_evalWithin h

/-! ### Answers -/

theorem fits_of_eval {e : Expr} {v : Value} (h : e.eval = .ok v) : v.fits = true := by
  rw [Expr.eval] at h
  split at h
  · cases h
  · exact fits_of_evalWithin h

/-- A value is written like an integer only if it is equal to it. -/
theorem toInt?_of_text {v : Value} {n : ℤ} (h : v.text = showInt n) :
    ∃ m, v.toInt? = some m ∧ digits m.natAbs = digits n.natAbs := by
  have hdigits {m : ℤ} (hm : showInt m = showInt n) : digits m.natAbs = digits n.natAbs := by
    rw [← filterMap_writeInt, ← filterMap_writeInt, String.ofList_injective hm]
  cases v with
  | whole m => exact ⟨m, rfl, hdigits h⟩
  | double x =>
    rw [Value.text] at h
    split at h
    · rename_i m hm
      exact ⟨m, hm, hdigits h⟩
    · exact absurd h (showDouble_ne_showInt x n)

/-- **The integers of a calculation are bounded.** At every expression the operands have at most
`maxBits` bits, what is built from them has at most twice as many, and the value that is handed on
has at most `maxBits` again. The limit on the digits of an answer stops no value, and an answer that
is an integer has at most 3011 digits. -/
theorem integers_bounded :
    (∀ room e, Expr.IsBounded room e) ∧
      (∀ (e : Expr) v, e.eval = .ok v → v.write = .ok v.text) ∧
      ∀ s n, calculate s = .ok (showInt n) → (digits n.natAbs).length ≤ 3011 := by
  refine ⟨Expr.isBounded, fun e v h ↦ write_of_fits (fits_of_eval h), fun s n h ↦ ?_⟩
  obtain ⟨ts, e, v, -, -, hv, htext⟩ := of_calculate_eq_ok h
  obtain ⟨m, hm, hdigits⟩ := toInt?_of_text htext.symm
  rw [← hdigits]
  exact length_digits_of_fits (fits_of_evalWithin hv) hm

end Organizer.Arithmetic
