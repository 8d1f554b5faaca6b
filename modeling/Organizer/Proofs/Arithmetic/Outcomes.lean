import Organizer.Arithmetic.Eval
import Organizer.Proofs.Number.Length

/-!
# Outcomes of an evaluation

What is true of a value because an evaluation has come to it. The evaluation of its operands has
come to values too, and the operator applies to them (`ok_of_binary`). And it has passed the check
of its size, since no expression has a value that is not handed to the check
(`evalWithin_succ`). A whole number that has passed is of at most 3011 digits, and a double that is
a whole number of fewer, so a value is never too long to be written (`write_of_fits`).
-/

namespace Organizer.Arithmetic

open Organizer.Arithmetic.Expr Number Text

/-! ### Sequences -/

theorem ok_bind {ε α β : Type} (x : α) (f : α → Except ε β) : (Except.ok x >>= f) = f x := rfl

theorem ok_of_bind {ε α β : Type} {r : Except ε α} {f : α → Except ε β} {y : β}
    (h : (r >>= f) = .ok y) : ∃ x, r = .ok x ∧ f x = .ok y := by
  cases r with
  | error e => cases h
  | ok x => exact ⟨x, rfl, h⟩

theorem ok_of_ofFault {α : Type} {r : Except Fault α} {x : α} (h : Halt.ofFault r = .ok x) :
    r = .ok x := by
  cases r with
  | error e => cases h
  | ok y => cases h; rfl

theorem eq_of_bounded {v w : Value} (h : Value.bounded v = .ok w) : v = w := by
  rw [Value.bounded] at h
  split at h
  · exact Except.ok.inj h
  · cases h

/-- A value of a checked expression has passed the check. -/
theorem fits_of_bounded {v w : Value} (h : Value.bounded v = .ok w) : w.fits = true := by
  rw [← eq_of_bounded h]
  by_contra hfits
  rw [Value.bounded, if_neg hfits] at h
  cases h

/-! ### Operands -/

section

variable {room : Nat} {e f : Expr} {op : Op} {v : Value}

theorem ok_of_positive (h : (Expr.positive e).evalWithin (room + 1) = .ok v) :
    e.evalWithin room = .ok v := by
  rw [evalWithin] at h
  obtain ⟨w, hw, h⟩ := ok_of_bind h
  rw [hw, eq_of_bounded (ok_of_ofFault h)]

theorem ok_of_negative (h : (Expr.negative e).evalWithin (room + 1) = .ok v) :
    ∃ w, e.evalWithin room = .ok w ∧ v = w.negate := by
  rw [evalWithin] at h
  obtain ⟨w, hw, h⟩ := ok_of_bind h
  exact ⟨w, hw, (eq_of_bounded (ok_of_ofFault h)).symm⟩

/-- Both operands have values, and the operator applies to them. -/
theorem ok_of_binary (h : (Expr.binary op e f).evalWithin (room + 1) = .ok v) :
    ∃ a b, e.evalWithin room = .ok a ∧ f.evalWithin room = .ok b ∧ op.apply a b = .ok v := by
  by_cases hop : op = .wholeDiv
  · rw [hop, evalWithin] at h
    cases h
  · rw [evalWithin] at h
    · obtain ⟨a, ha, h⟩ := ok_of_bind h
      obtain ⟨b, hb, h⟩ := ok_of_bind h
      obtain ⟨w, hw, h⟩ := ok_of_bind (ok_of_ofFault h)
      exact ⟨a, b, ha, hb, by rw [hw, eq_of_bounded h]⟩
    · exact hop

/-! ### The check -/

theorem lt_pow_iff_size_le {m k : ℕ} : m < Nat.pow 2 k ↔ m.size ≤ k := Nat.size_le.symm

/-- The check counts bits. -/
theorem fits_whole_iff {n : ℤ} : (Value.whole n).fits = true ↔ n.natAbs.size ≤ maxBits := by
  rw [Value.fits, decide_eq_true_iff, lt_pow_iff_size_le]

/-- What an expression comes to before its size is checked, when there is room for its operands. -/
def Expr.unchecked (room : ℕ) : Expr → Except Halt Value
  | .whole n => .ok (.whole n)
  | .double x => .ok (.double x)
  | .positive e => e.evalWithin room
  | .negative e => do return (← e.evalWithin room).negate
  | .binary .wholeDiv _ _ => .error (.fault .invalid)
  | .binary op left right => do
    let a ← left.evalWithin room
    let b ← right.evalWithin room
    Halt.ofFault (op.apply a b)
  | .meaningless => .error (.fault .invalid)

/-- **No value comes around the check of its size.** -/
theorem evalWithin_succ (room : ℕ) (e : Expr) :
    e.evalWithin (room + 1) = e.unchecked room >>= fun v ↦ Halt.ofFault v.bounded := by
  cases e with
  | whole n => rw [evalWithin, unchecked, ok_bind]
  | double x =>
    have hfits : (Value.double x).fits = true := rfl
    rw [evalWithin, unchecked, ok_bind, Value.bounded, if_pos hfits]
    rfl
  | positive e => rfl
  | negative e =>
    rw [evalWithin, unchecked]
    cases e.evalWithin room <;> rfl
  | binary op e f =>
    by_cases hop : op = .wholeDiv
    · rw [hop]
      rfl
    · rw [evalWithin, unchecked]
      · cases e.evalWithin room with
        | error halt => rfl
        | ok a =>
          cases f.evalWithin room with
          | error halt => rfl
          | ok b =>
            rw [ok_bind, ok_bind, ok_bind, ok_bind]
            cases op.apply a b <;> rfl
      · exact hop
      · exact hop
  | meaningless => rfl

theorem fits_of_evalWithin (h : e.evalWithin room = .ok v) : v.fits = true := by
  cases room with
  | zero => cases h
  | succ room =>
    rw [evalWithin_succ] at h
    obtain ⟨w, -, h⟩ := ok_of_bind h
    exact fits_of_bounded (ok_of_ofFault h)

end

/-! ### Writing -/

/-- An integer that a value of the right size is equal to has at most 3011 digits. -/
theorem length_digits_of_fits {v : Value} (hv : v.fits = true) {n : ℤ} (hn : v.toInt? = some n) :
    (digits n.natAbs).length ≤ 3011 := by
  have hsize : n.natAbs.size ≤ maxBits := by
    cases v with
    | whole m =>
      obtain rfl : m = n := Option.some.inj hn
      exact fits_whole_iff.1 hv
    | double x => exact (Double.size_of_toInt? hn).trans (by decide)
  exact length_digits_le_of_size (by decide) (by decide +kernel) hsize

/-- **What has passed the check can be written.** -/
theorem write_of_fits {v : Value} (hv : v.fits = true) : v.write = .ok v.text := by
  rw [Value.write, if_neg]
  rw [Option.any_eq_true]
  rintro ⟨n, hn, hlong⟩
  have hlength := length_digits_of_fits hv hn
  have hlimit : maxWholeDigits < (digits n.natAbs).length := of_decide_eq_true hlong
  rw [maxWholeDigits] at hlimit
  omega

/-! ### The calculator -/

/-- How a result comes about. -/
theorem of_calculate_eq_ok {s r : String} (h : calculate s = .ok r) :
    ∃ ts e v, tokensFrom 0 (trim s.toList) = (ts, true) ∧ ofTokens? ts = some e ∧
      e.evalWithin maxDepth = .ok v ∧ r = v.text := by
  rw [calculate] at h
  split at h
  · cases h
  split at h
  · cases h
  rcases htokens : tokensFrom 0 (trim s.toList) with ⟨ts, isWhole⟩
  rw [htokens] at h
  dsimp only at h
  split at h
  · cases h
  cases isWhole with
  | false => cases h
  | true =>
    rw [if_pos rfl] at h
    split at h
    · cases h
    · rename_i e he
      obtain ⟨v, hv, hr⟩ := ok_of_bind h
      rw [Expr.eval] at hv
      split at hv
      · cases hv
      · rw [write_of_fits (fits_of_evalWithin hv)] at hr
        exact ⟨ts, e, v, rfl, he, hv, (Except.ok.inj hr).symm⟩

end Organizer.Arithmetic
