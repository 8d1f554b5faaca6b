import Organizer.Text.Digit

/-!
# Natural numbers and integers in decimal

`digits` lists the decimal digits of a number, most significant first; `writeNat` and `writeInt`
turn them into text. Reading the digits back gives the number again (`ofDigits_digits`), and a
number other than zero is written without a leading zero (`head_digits_ne_zero`).

`roundDiv` is the one rounding rule of the library: to the nearest, and a half to the even side.
-/

namespace Organizer.Number

open Text

/-- The decimal digits of a number, most significant first. Zero has one digit. -/
def digits (n : Nat) : List Nat :=
  if n < 10 then [n] else digits (n / 10) ++ [n % 10]

/-- The text of a natural number. -/
def writeNat (n : Nat) : List Char := (digits n).map Nat.digitChar

/-- The text of an integer. -/
def writeInt : Int → List Char
  | .ofNat n => writeNat n
  | .negSucc n => '-' :: writeNat (n + 1)

/-- The text of an integer, as a string. -/
def showInt (n : Int) : String := String.ofList (writeInt n)

/-- The text of a natural number, as a string. -/
def showNat (n : Nat) : String := String.ofList (writeNat n)

/-- A quotient rounded to the nearest whole number, a half to the even one. -/
def roundDiv (num den : Nat) : Nat :=
  let whole := num / den
  let twice := 2 * (num % den)
  if twice < den ∨ (twice = den ∧ whole % 2 = 0) then whole else whole + 1

/-! ### Digits -/

theorem digits_of_lt {n : Nat} (h : n < 10) : digits n = [n] := by
  rw [digits, if_pos h]

theorem digits_of_ge {n : Nat} (h : 10 ≤ n) : digits n = digits (n / 10) ++ [n % 10] := by
  rw [digits, if_neg (by omega)]

theorem ofDigits_digits (n : Nat) : ofDigits (digits n) = n := by
  fun_induction digits n with
  | case1 n h => simp [ofDigits]
  | case2 n h ih => rw [ofDigits_append_singleton, ih]; omega

theorem digits_ne_nil (n : Nat) : digits n ≠ [] := by
  rw [digits]; split <;> simp

theorem lt_ten_of_mem_digits {n d : Nat} (h : d ∈ digits n) : d < 10 := by
  fun_induction digits n with
  | case1 n hn => simp at h; omega
  | case2 n hn ih =>
    rcases List.mem_append.mp h with h | h
    · exact ih h
    · simp at h; omega

/-- What is true of every digit is true of every character of a written natural number. -/
theorem forall_mem_writeNat {P : Char → Prop} (hdigit : ∀ d < 10, P d.digitChar) (n : Nat) :
    ∀ c ∈ writeNat n, P c := by
  intro c hc
  obtain ⟨d, hd, rfl⟩ := List.mem_map.1 hc
  exact hdigit d (lt_ten_of_mem_digits hd)

theorem forall_mem_writeInt {P : Char → Prop} (hminus : P '-') (hdigit : ∀ d < 10, P d.digitChar)
    (n : Int) : ∀ c ∈ writeInt n, P c := by
  cases n with
  | ofNat n => exact forall_mem_writeNat hdigit n
  | negSucc n => exact List.forall_mem_cons.2 ⟨hminus, forall_mem_writeNat hdigit (n + 1)⟩

theorem head_digits_ne_zero {n : Nat} (h : n ≠ 0) : (digits n).head? ≠ some 0 := by
  fun_induction digits n with
  | case1 n hn => simpa using h
  | case2 n hn ih =>
    rw [List.head?_append]
    cases hd : (digits (n / 10)).head? with
    | none => simp at hd; exact absurd hd (digits_ne_nil _)
    | some d => simpa [hd] using ih (by omega)

end Organizer.Number
