import Mathlib.Algebra.Order.Field.Power
import Mathlib.Data.Rat.Cast.Order
import Mathlib.Tactic.FieldSimp
import Mathlib.Tactic.Linarith
import Mathlib.Tactic.NormNum
import Mathlib.Tactic.Positivity
import Mathlib.Tactic.Ring
import Organizer.Number.Scientific
import Organizer.Proofs.Number.Bits

/-!
# Rounding to the nearest double

The conversions of the library work on quotients of natural numbers, with powers of two and ten
multiplied to one side or the other. Here they are described by the rational number that is meant.

* `roundDiv` lies within a half of the quotient, and is the only such number unless there is a tie
  (`roundDiv_eq`).
* `floorLog2` and `floorLog10` lie between the right powers (`floorLog2_spec`, `floorLog10_spec`);
  both guess an exponent that is at most one too large and correct it.
* Each double has a neighbourhood of rational numbers, `Near`, and `nearest` gives every number of
  it that double (`nearestBits_eq_of_near`).
-/

namespace Organizer.Number

open Double

/-! ### Powers on either side -/

section Powers

variable {b : Nat}

/-- A power as a numerator over the power as a denominator: one of the two is one. -/
theorem pow_toNat_div (hb : b ≠ 0) (e : Int) :
    ((Nat.pow b e.toNat : Nat) : ℚ) / (Nat.pow b (-e).toNat : Nat) = (b : ℚ) ^ e := by
  have hb' : (b : ℚ) ≠ 0 := Nat.cast_ne_zero.2 hb
  rcases le_total 0 e with he | he
  · obtain ⟨n, rfl⟩ := Int.eq_ofNat_of_zero_le he
    simp
  · obtain ⟨n, hn⟩ := Int.eq_ofNat_of_zero_le (Int.neg_nonneg_of_nonpos he)
    obtain rfl : e = -n := by omega
    simp

theorem pow_toNat_pos (hb : b ≠ 0) (e : Int) : 0 < Nat.pow b e.toNat :=
  Nat.pow_pos (Nat.pos_of_ne_zero hb)

/-- Multiplying by a power on the side where it belongs. -/
theorem mul_pow_div (hb : b ≠ 0) (e : Int) (num den : Nat) :
    ((num * Nat.pow b e.toNat : Nat) : ℚ) / ((den * Nat.pow b (-e).toNat : Nat) : ℚ) =
      (num / den : ℚ) * (b : ℚ) ^ e := by
  rw [← pow_toNat_div hb e, Nat.cast_mul, Nat.cast_mul, mul_div_mul_comm]

end Powers

/-! ### Rounded quotients -/

section RoundDiv

variable {num den : Nat}

theorem roundDiv_bounds (num : Nat) (hden : 0 < den) :
    2 * num ≤ (2 * roundDiv num den + 1) * den ∧ 2 * roundDiv num den * den ≤ 2 * num + den := by
  have hnum : den * (num / den) + num % den = num := Nat.div_add_mod num den
  have hlt : num % den < den := Nat.mod_lt _ hden
  simp only [roundDiv]
  generalize num / den = whole at hnum ⊢
  generalize num % den = rest at hnum hlt ⊢
  subst hnum
  split <;> constructor <;> ring_nf <;> omega

/-- Within a half of the quotient there is one whole number, or two of which one is even. -/
theorem roundDiv_eq {n : Nat} (hden : 0 < den) (hlow : 2 * n * den ≤ 2 * num + den)
    (hhigh : 2 * num ≤ (2 * n + 1) * den)
    (hodd : n % 2 = 1 → 2 * n * den < 2 * num + den ∧ 2 * num < (2 * n + 1) * den) :
    roundDiv num den = n := by
  have hnum : den * (num / den) + num % den = num := Nat.div_add_mod num den
  have hlt : num % den < den := Nat.mod_lt _ hden
  simp only [roundDiv]
  generalize num / den = whole at hnum ⊢
  generalize num % den = rest at hnum hlt ⊢
  subst hnum
  -- the bounds leave the whole part and the number above it
  have hcases : n = whole ∨ n = whole + 1 := by
    have h1 : 2 * n * den < (2 * whole + 3) * den := by
      ring_nf at hlow ⊢
      omega
    have h2 : 2 * whole * den ≤ (2 * n + 1) * den := by
      ring_nf at hhigh ⊢
      omega
    have h3 := Nat.lt_of_mul_lt_mul_right h1
    have h4 := Nat.le_of_mul_le_mul_right h2 hden
    omega
  rcases hcases with rfl | rfl
  · rw [if_pos]
    ring_nf at hhigh hodd
    omega
  · rw [if_neg]
    ring_nf at hlow hodd
    omega

theorem abs_sub_roundDiv_le (num : Nat) (hden : 0 < den) :
    |(num / den : ℚ) - roundDiv num den| ≤ 1 / 2 := by
  obtain ⟨h1, h2⟩ := roundDiv_bounds num hden
  have hden' : (0 : ℚ) < den := Nat.cast_pos.2 hden
  have h1' : (2 * num : ℚ) ≤ (2 * roundDiv num den + 1) * den := by exact_mod_cast h1
  have h2' : (2 * roundDiv num den * den : ℚ) ≤ 2 * num + den := by exact_mod_cast h2
  rw [abs_le, le_sub_iff_add_le, le_div_iff₀ hden', sub_le_iff_le_add, div_le_iff₀ hden']
  constructor <;> linarith

/-- The only whole number within a half of the quotient, or the even one of two. -/
theorem roundDiv_eq_of_abs_sub_le {n : Nat} (hden : 0 < den) (h : |(num / den : ℚ) - n| ≤ 1 / 2)
    (hodd : n % 2 = 1 → |(num / den : ℚ) - n| < 1 / 2) : roundDiv num den = n := by
  have hden' : (0 : ℚ) < den := Nat.cast_pos.2 hden
  have hle : (2 * n * den : ℚ) ≤ 2 * num + den ∧ (2 * num : ℚ) ≤ (2 * n + 1) * den := by
    rw [abs_le, le_sub_iff_add_le, le_div_iff₀ hden', sub_le_iff_le_add, div_le_iff₀ hden'] at h
    constructor <;> linarith
  refine roundDiv_eq hden (by exact_mod_cast hle.1) (by exact_mod_cast hle.2) ?_
  intro hn
  have hlt : (2 * n * den : ℚ) < 2 * num + den ∧ (2 * num : ℚ) < (2 * n + 1) * den := by
    have h' := hodd hn
    rw [abs_lt, lt_sub_iff_add_lt, lt_div_iff₀ hden', sub_lt_iff_lt_add, div_lt_iff₀ hden'] at h'
    constructor <;> linarith
  exact ⟨by exact_mod_cast hlt.1, by exact_mod_cast hlt.2⟩

end RoundDiv

/-! ### The exponent of the largest power below -/

section FloorLog

variable {num den : Nat}

/-- A guess that is right or one too large is put right by one comparison. -/
theorem floor_of_guess {b : Nat} (hb : b ≠ 0) (hden : 0 < den) {guess : Int}
    (hlow : (b : ℚ) ^ (guess - 1) ≤ num / den) (hhigh : (num / den : ℚ) < (b : ℚ) ^ (guess + 1)) :
    let e := if den * Nat.pow b guess.toNat ≤ num * Nat.pow b (-guess).toNat then guess
      else guess - 1
    (b : ℚ) ^ e ≤ num / den ∧ (num / den : ℚ) < (b : ℚ) ^ (e + 1) := by
  have hden' : (0 : ℚ) < den := Nat.cast_pos.2 hden
  have hpow : (0 : ℚ) < (Nat.pow b (-guess).toNat : Nat) :=
    Nat.cast_pos.2 (pow_toNat_pos hb _)
  have hiff : den * Nat.pow b guess.toNat ≤ num * Nat.pow b (-guess).toNat ↔
      (b : ℚ) ^ guess ≤ num / den := by
    rw [← pow_toNat_div hb guess, div_le_div_iff₀ hpow hden', mul_comm (den : Nat)]
    exact_mod_cast Iff.rfl
  rw [if_congr hiff rfl rfl]
  dsimp only
  split
  · exact ⟨‹_›, hhigh⟩
  · rw [sub_add_cancel]
    exact ⟨hlow, not_le.1 ‹_›⟩

/-- A quotient of numbers between powers lies between powers. -/
theorem div_between_powers {b : Nat} (hb : b ≠ 0) {m n : Nat}
    (hnum : b ^ m ≤ num ∧ num < b ^ (m + 1)) (hden : b ^ n ≤ den ∧ den < b ^ (n + 1)) :
    (b : ℚ) ^ ((m : Int) - n - 1) ≤ num / den ∧
      (num / den : ℚ) < (b : ℚ) ^ ((m : Int) - n + 1) := by
  have hb' : (0 : ℚ) < b := Nat.cast_pos.2 (Nat.pos_of_ne_zero hb)
  have hden' : (0 : ℚ) < den := by
    exact_mod_cast Nat.lt_of_lt_of_le (Nat.pow_pos (Nat.pos_of_ne_zero hb)) hden.1
  have h1 : ((b : ℚ) ^ m) ≤ num := by exact_mod_cast hnum.1
  have h2 : (num : ℚ) < (b : ℚ) ^ (m + 1) := by exact_mod_cast hnum.2
  have h3 : ((b : ℚ) ^ n) ≤ den := by exact_mod_cast hden.1
  have h4 : (den : ℚ) < (b : ℚ) ^ (n + 1) := by exact_mod_cast hden.2
  constructor
  · rw [le_div_iff₀ hden']
    calc (b : ℚ) ^ ((m : Int) - n - 1) * den
        ≤ (b : ℚ) ^ ((m : Int) - n - 1) * (b : ℚ) ^ (n + 1) := by gcongr
      _ = (b : ℚ) ^ m := by
          rw [← zpow_natCast, ← zpow_add₀ hb'.ne', ← zpow_natCast]
          congr 1
          push_cast
          ring
      _ ≤ num := h1
  · rw [div_lt_iff₀ hden']
    calc (num : ℚ) < (b : ℚ) ^ (m + 1) := h2
      _ = (b : ℚ) ^ ((m : Int) - n + 1) * (b : ℚ) ^ n := by
          rw [← zpow_natCast, ← zpow_natCast, ← zpow_add₀ hb'.ne']
          congr 1
          push_cast
          ring
      _ ≤ (b : ℚ) ^ ((m : Int) - n + 1) * den := by gcongr

theorem floorLog2_spec (hnum : 0 < num) (hden : 0 < den) :
    (2 : ℚ) ^ floorLog2 num den ≤ num / den ∧
      (num / den : ℚ) < (2 : ℚ) ^ (floorLog2 num den + 1) := by
  have hpow (n : Nat) (hn : 0 < n) : 2 ^ n.log2 ≤ n ∧ n < 2 ^ (n.log2 + 1) :=
    ⟨Nat.log2_self_le hn.ne', Nat.lt_log2_self⟩
  obtain ⟨hlow, hhigh⟩ := div_between_powers (by decide) (hpow num hnum) (hpow den hden)
  exact floor_of_guess (by decide) hden hlow hhigh

/-- A number has as many digits as the power of ten below it says. -/
theorem pow_length_digits (n : Nat) (hn : 0 < n) :
    10 ^ ((digits n).length - 1) ≤ n ∧ n < 10 ^ ((digits n).length - 1 + 1) := by
  fun_induction digits n with
  | case1 n h => simpa using ⟨hn, h⟩
  | case2 n h ih =>
    obtain ⟨h1, h2⟩ := ih (by omega)
    have hlength : (digits (n / 10) ++ [n % 10]).length - 1 = (digits (n / 10)).length - 1 + 1 := by
      have := List.length_pos_of_ne_nil (digits_ne_nil (n / 10))
      simp
      omega
    rw [hlength, pow_succ, pow_succ _ ((digits (n / 10)).length - 1 + 1)]
    omega

theorem floorLog10_spec (hnum : 0 < num) (hden : 0 < den) :
    (10 : ℚ) ^ floorLog10 num den ≤ num / den ∧
      (num / den : ℚ) < (10 : ℚ) ^ (floorLog10 num den + 1) := by
  obtain ⟨hlow, hhigh⟩ := div_between_powers (by decide) (pow_length_digits num hnum)
    (pow_length_digits den hden)
  have hguess : (((digits num).length - 1 : Nat) : Int) - ((digits den).length - 1 : Nat) =
      (digits num).length - (digits den).length := by
    have h1 := List.length_pos_of_ne_nil (digits_ne_nil num)
    have h2 := List.length_pos_of_ne_nil (digits_ne_nil den)
    omega
  rw [hguess] at hlow hhigh
  exact floor_of_guess (by decide) hden hlow hhigh

end FloorLog

/-! ### The neighbourhood of a double -/

/-- The rational number lies in the neighbourhood of the double with this mantissa and exponent. -/
def Near (m : Nat) (q : Int) (x : ℚ) : Prop :=
  let r := neighbourhood m q
  if r.closed then r.low * (2 : ℚ) ^ (q - 2) ≤ x ∧ x ≤ r.high * (2 : ℚ) ^ (q - 2)
  else r.low * (2 : ℚ) ^ (q - 2) < x ∧ x < r.high * (2 : ℚ) ^ (q - 2)

section Near

variable {m : Nat} {q : Int} {x : ℚ}

/-- The neighbourhood in units of the distance to the upper neighbour. -/
theorem near_iff : Near m q x ↔
    if m % 2 = 0 then (neighbourhood m q).low / 4 ≤ x / (2 : ℚ) ^ q ∧ x / (2 : ℚ) ^ q ≤ m + 1 / 2
    else (neighbourhood m q).low / 4 < x / (2 : ℚ) ^ q ∧ x / (2 : ℚ) ^ q < m + 1 / 2 := by
  have hpow : (0 : ℚ) < (2 : ℚ) ^ q := by positivity
  have hquarter (y : ℚ) : y * (2 : ℚ) ^ (q - 2) = y / 4 * (2 : ℚ) ^ q := by
    rw [zpow_sub₀ (by norm_num)]
    ring
  have hhigh : ((neighbourhood m q).high / 4 : ℚ) = m + 1 / 2 := by
    simp only [neighbourhood]
    push_cast
    ring
  simp only [Near, hquarter, ← hhigh, le_div_iff₀ hpow, div_le_iff₀ hpow, lt_div_iff₀ hpow,
    div_lt_iff₀ hpow]
  simp [neighbourhood]

theorem low_ge (hm : 0 < m) : (m - 1 / 2 : ℚ) ≤ (neighbourhood m q).low / 4 := by
  have hlow : 4 * m ≤ (neighbourhood m q).low + 2 := by
    simp only [neighbourhood]
    split <;> omega
  have hlow' : (4 * m : ℚ) ≤ (neighbourhood m q).low + 2 := by exact_mod_cast hlow
  linarith

/-- All of the neighbourhood is within a half of the mantissa. -/
theorem Near.abs_sub_le (hm : 0 < m) (h : Near m q x) :
    |x / (2 : ℚ) ^ q - m| ≤ 1 / 2 ∧ (m % 2 = 1 → |x / (2 : ℚ) ^ q - m| < 1 / 2) := by
  have hlow : (m - 1 / 2 : ℚ) ≤ (neighbourhood m q).low / 4 := low_ge hm
  rw [near_iff] at h
  split at h
  · obtain ⟨h1, h2⟩ := h
    refine ⟨abs_le.2 ⟨by linarith, by linarith⟩, ?_⟩
    intro hodd
    omega
  · obtain ⟨h1, h2⟩ := h
    have hlt : |x / (2 : ℚ) ^ q - m| < 1 / 2 := abs_lt.2 ⟨by linarith, by linarith⟩
    exact ⟨hlt.le, fun _ ↦ hlt⟩

/-- Below a power of two the neighbourhood ends at a quarter. -/
theorem Near.sub_quarter_le (h : Near (2 ^ 52) q x) (hq : -1074 < q) :
    (2 ^ 52 - 1 / 4 : ℚ) ≤ x / (2 : ℚ) ^ q := by
  have hlow : ((neighbourhood (2 ^ 52) q).low / 4 : ℚ) = 2 ^ 52 - 1 / 4 := by
    simp only [neighbourhood, Nat.pow_eq, hq, and_self, if_true]
    norm_num
  rw [near_iff, hlow] at h
  exact h.1

end Near

/-! ### The nearest double -/

/-- The exponent of the power of two below a number is read off two bounds. -/
theorem floorLog2_eq {num den : Nat} (hnum : 0 < num) (hden : 0 < den) {e : Int}
    (hlow : (2 : ℚ) ^ e ≤ num / den) (hhigh : (num / den : ℚ) < (2 : ℚ) ^ (e + 1)) :
    floorLog2 num den = e := by
  obtain ⟨h1, h2⟩ := floorLog2_spec hnum hden
  have h3 := (zpow_lt_zpow_iff_right₀ (by norm_num)).1 (h1.trans_lt hhigh)
  have h4 := (zpow_lt_zpow_iff_right₀ (by norm_num)).1 (hlow.trans_lt h2)
  omega

/-- The quotient in units of the last place. -/
theorem scaled_div (num den : Nat) (e : Int) :
    ((num * scaleDown e : Nat) : ℚ) / ((den * scaleUp e : Nat) : ℚ) =
      (num / den : ℚ) / (2 : ℚ) ^ e := by
  have h := mul_pow_div (by decide : (2 : Nat) ≠ 0) (-e) num den
  rw [neg_neg, zpow_neg, ← div_eq_mul_inv] at h
  exact h

/-- The pattern of the nearest double, once its exponent and its mantissa are known. -/
theorem nearestBits_eq {num den n : Nat} {e : Int} (hnum : 0 < num) (hden : 0 < den)
    (he : max (floorLog2 num den - 52) (-1074) = e)
    (hround : |(num / den : ℚ) / (2 : ℚ) ^ e - n| ≤ 1 / 2)
    (hodd : n % 2 = 1 → |(num / den : ℚ) / (2 : ℚ) ^ e - n| < 1 / 2)
    (hle : magnitudeBits n e ≤ 2047 * 2 ^ 52) : nearestBits num den = magnitudeBits n e := by
  have hmantissa : roundDiv (num * scaleDown e) (den * scaleUp e) = n := by
    refine roundDiv_eq_of_abs_sub_le (Nat.mul_pos hden (pow_toNat_pos (by decide) e)) ?_ ?_
    · rwa [scaled_div]
    · rwa [scaled_div]
  rw [nearestBits, if_neg hnum.ne']
  simp only [he, hmantissa]
  exact min_eq_right hle

/-- **Every number in the neighbourhood of a double is rounded to it.** -/
theorem nearestBits_eq_of_near {m : Nat} {q : Int} {num den : Nat} (hden : 0 < den) (hm : 0 < m)
    (hr : Representable m q) (h : Near m q (num / den)) :
    nearestBits num den = magnitudeBits m q := by
  obtain ⟨hmantissa, hlow, hhigh, hnormal⟩ := hr
  have hpow : (0 : ℚ) < (2 : ℚ) ^ q := by positivity
  obtain ⟨hle, hlt⟩ := h.abs_sub_le hm
  have hm' : (1 : ℚ) ≤ m := by exact_mod_cast hm
  have hmlt : (m + 1 : ℚ) ≤ 2 ^ 53 := by exact_mod_cast hmantissa
  have hbounds := abs_le.1 hle
  have hpos : (0 : ℚ) < (num / den : ℚ) / (2 : ℚ) ^ q := by linarith
  have hnum : 0 < num := by
    have h1 : (0 : ℚ) < (num / den : ℚ) := (div_pos_iff_of_pos_right hpow).1 hpos
    have h2 : (0 : ℚ) < num := (div_pos_iff_of_pos_right (Nat.cast_pos.2 hden)).1 h1
    exact_mod_cast h2
  -- The power of two below the number, from bounds in units of the upper neighbour.
  have hlog (k : Int) (h1 : (2 : ℚ) ^ k ≤ (num / den : ℚ) / (2 : ℚ) ^ q)
      (h2 : (num / den : ℚ) / (2 : ℚ) ^ q < (2 : ℚ) ^ (k + 1)) :
      floorLog2 num den = q + k := by
    refine floorLog2_eq hnum hden ?_ ?_
    · rw [zpow_add₀ (by norm_num), mul_comm]
      exact (le_div_iff₀ hpow).1 h1
    · rw [add_assoc, zpow_add₀ (by norm_num), mul_comm]
      exact (div_lt_iff₀ hpow).1 h2
  by_cases hbelow : (num / den : ℚ) / (2 : ℚ) ^ q < 2 ^ 52 ∧ -1074 < q
  · -- The number lies below the power of two that the double is.
    have hpower : m = 2 ^ 52 := by
      by_contra hne
      have hge : 2 ^ 52 ≤ m := by
        by_contra hsmall
        exact absurd (hnormal (by omega)) (by omega)
      have hge' : (2 ^ 52 + 1 : ℚ) ≤ m := by exact_mod_cast (by omega : 2 ^ 52 + 1 ≤ m)
      linarith [hbelow.1]
    subst hpower
    have hquarter := h.sub_quarter_le hbelow.2
    have hlog' : floorLog2 num den = q + 51 := by
      refine hlog 51 ?_ ?_
      · norm_num at hquarter ⊢
        linarith
      · norm_num at hbelow ⊢
        exact hbelow.1
    have hhalf : (num / den : ℚ) / (2 : ℚ) ^ (q - 1) = 2 * ((num / den : ℚ) / (2 : ℚ) ^ q) := by
      rw [zpow_sub_one₀ (by norm_num)]
      field_simp
    have hbits : magnitudeBits (2 ^ 53) (q - 1) = magnitudeBits (2 ^ 52) q := by
      simp only [magnitudeBits]
      omega
    rw [← hbits]
    refine nearestBits_eq hnum hden (by omega) ?_ (fun hodd ↦ absurd hodd (by decide)) ?_
    · rw [hhalf, abs_le]
      push_cast
      constructor <;> linarith [hbelow.1]
    · simp only [magnitudeBits]
      omega
  · have hexponent : max (floorLog2 num den - 52) (-1074) = q := by
      by_cases hsmall : (num / den : ℚ) / (2 : ℚ) ^ q < 2 ^ 52
      · have hleast : q = -1074 := by
          have hnot : ¬ -1074 < q := fun hq ↦ hbelow ⟨hsmall, hq⟩
          omega
        have hupper : (num / den : ℚ) < (2 : ℚ) ^ (q + 52) := by
          rw [zpow_add₀ (by norm_num), mul_comm]
          exact (div_lt_iff₀ hpow).1 (by exact_mod_cast hsmall)
        have hlt52 : floorLog2 num den < q + 52 :=
          (zpow_lt_zpow_iff_right₀ (by norm_num)).1 ((floorLog2_spec hnum hden).1.trans_lt hupper)
        omega
      · rw [hlog 52 (by exact_mod_cast not_lt.1 hsmall) (by norm_num at *; linarith)]
        omega
    refine nearestBits_eq hnum hden hexponent hle hlt ?_
    simp only [magnitudeBits]
    omega

end Organizer.Number
