import Organizer.Proofs.Number.Rounding

/-!
# The value of the nearest double

`decode` gives back what a double was put together from (`decode_eq_finite_iff`), and so the double
nearest to a quotient is a number that can be compared with the quotient: it is off by half a unit
in the last place at most (`exists_decode_nearest`).
-/

namespace Organizer.Double

open Float.Model Float.Model.UnpackedFloat Number

/-! ### Reading a pattern back -/

theorem toBits_ofBits {b : UInt64} (h : Format.binary64.Valid b.toBitVec) :
    (Float.ofBits b).toBits = b := by
  show UInt64.ofBitVec (UnpackedFloat.pack Format.binary64
    (UnpackedFloat.unpack Format.binary64 b.toBitVec)) = b
  rw [pack_unpack h]

/-- Every pattern but the last exponents' is that of a double. -/
theorem toNat_toBits_ofNat {b : Nat} (hb : b < 2 ^ 64) (h : b / 2 ^ 52 % 2 ^ 11 ≠ 2047) :
    (Float.ofBits (UInt64.ofNat b)).toBits.toNat = b := by
  have hvalid : Format.binary64.Valid (UInt64.ofNat b).toBitVec := by
    refine ⟨fun hlast ↦ absurd ?_ h⟩
    have hexponent := congrArg BitVec.toNat hlast
    rw [toNat_unpackExponent] at hexponent
    have htoNat : (UInt64.ofNat b).toBitVec.toNat = b := UInt64.toNat_ofNat_of_lt' hb
    rwa [htoNat] at hexponent
  rw [toBits_ofBits hvalid]
  exact UInt64.toNat_ofNat_of_lt' hb

/-- **The parts of a finite double are what it is put together from.** -/
theorem decode_eq_finite_iff {x : Float} {negative : Bool} {m : Nat} {q : Int} :
    decode x = .finite negative m q ↔
      Representable m q ∧
        x = Float.ofBits (UInt64.ofNat (magnitudeBits m q + signBit negative)) := by
  refine ⟨decode_eq_finite, ?_⟩
  rintro ⟨⟨hmantissa, hlow, hhigh, hnormal⟩, rfl⟩
  obtain ⟨sign, hsign, hbit⟩ : ∃ sign, signBit negative = sign * 2 ^ 63 ∧
      (sign = 0 ∧ negative = false ∨ sign = 1 ∧ negative = true) := by
    cases negative
    · exact ⟨0, rfl, .inl ⟨rfl, rfl⟩⟩
    · exact ⟨1, rfl, .inr ⟨rfl, rfl⟩⟩
  have hmagnitude : magnitudeBits m q = (q + 1074).toNat * 2 ^ 52 + m := rfl
  rw [hsign]
  generalize magnitudeBits m q = magnitude at hmagnitude
  have hbits := toNat_toBits_ofNat (b := magnitude + sign * 2 ^ 63) (by omega) (by omega)
  simp only [decode, Nat.pow_eq, hbits]
  have hnegative : ((magnitude + sign * 2 ^ 63) / 2 ^ 63 == 1) = negative := by
    rcases hbit with ⟨rfl, rfl⟩ | ⟨rfl, rfl⟩
    · rw [beq_eq_false_iff_ne]
      omega
    · rw [beq_iff_eq]
      omega
  rw [hnegative, if_neg (by omega)]
  by_cases hsmall : m < 2 ^ 52
  · rw [if_pos (by omega)]
    congr 1 <;> omega
  · rw [if_neg (by omega)]
    congr 1 <;> omega

/-! ### Distance from the quotient -/

section Distance

variable {num den : Nat}

/-- The unit in the last place of the nearest double. -/
def lastPlace (num den : Nat) : Int := max (floorLog2 num den - 52) (-1074)

/-- The quotient in units of the last place, rounded. -/
def roundedUnits (num den : Nat) : Nat :=
  roundDiv (num * scaleDown (lastPlace num den)) (den * scaleUp (lastPlace num den))

theorem abs_sub_roundedUnits_le (num : Nat) (hden : 0 < den) :
    |(num / den : ℚ) / (2 : ℚ) ^ lastPlace num den - roundedUnits num den| ≤ 1 / 2 := by
  rw [← scaled_div]
  exact abs_sub_roundDiv_le _ (Nat.mul_pos hden (pow_toNat_pos (by decide) _))

/-- At most 53 bits are kept, and all of them unless the quotient is tiny. -/
theorem roundedUnits_bounds (hnum : 0 < num) (hden : 0 < den) :
    roundedUnits num den ≤ 2 ^ 53 ∧
      (roundedUnits num den < 2 ^ 52 → lastPlace num den = -1074) := by
  have hpow : (0 : ℚ) < (2 : ℚ) ^ lastPlace num den := by positivity
  obtain ⟨hfloor, hceil⟩ := floorLog2_spec hnum hden
  obtain ⟨hleft, hright⟩ := abs_le.1 (abs_sub_roundedUnits_le num hden)
  constructor
  · have hlt : (num / den : ℚ) / (2 : ℚ) ^ lastPlace num den < 2 ^ 53 := by
      rw [div_lt_iff₀ hpow, ← zpow_natCast, ← zpow_add₀ (by norm_num)]
      refine hceil.trans_le ((zpow_le_zpow_iff_right₀ (by norm_num)).2 ?_)
      rw [lastPlace]
      omega
    have hunits : (roundedUnits num den : ℚ) < 2 ^ 53 + 1 := by linarith
    exact Nat.lt_succ_iff.1 (by exact_mod_cast hunits)
  · intro hsmall
    by_contra hne
    have hexponent : lastPlace num den = floorLog2 num den - 52 := by
      rw [lastPlace] at hne ⊢
      omega
    have hge : (2 ^ 52 : ℚ) ≤ (num / den : ℚ) / (2 : ℚ) ^ lastPlace num den := by
      have hsum : ((52 : ℕ) : Int) + (floorLog2 num den - 52) = floorLog2 num den := by omega
      rw [le_div_iff₀ hpow, ← zpow_natCast, ← zpow_add₀ (by norm_num), hexponent, hsum]
      exact hfloor
    have hunits : (roundedUnits num den + 1 : ℚ) ≤ 2 ^ 52 := by exact_mod_cast hsmall
    linarith

/-- **The nearest double is off by half a unit in the last place at most.** The bound is stated for
all quotients below one power of two. -/
theorem exists_decode_nearest (negative : Bool) (hnum : 0 < num) (hden : 0 < den) {k : Int}
    (hlow : -1021 ≤ k) (hhigh : k ≤ 1023) (h : (num / den : ℚ) < (2 : ℚ) ^ k) :
    ∃ m q, decode (nearest negative num den) = .finite negative m q ∧
      |(num / den : ℚ) - m * (2 : ℚ) ^ q| ≤ (2 : ℚ) ^ (k - 54) := by
  have hplace : -1074 ≤ lastPlace num den ∧ lastPlace num den ≤ k - 53 := by
    have hfloor :=
      (zpow_lt_zpow_iff_right₀ (by norm_num)).1 ((floorLog2_spec hnum hden).1.trans_lt h)
    rw [lastPlace]
    omega
  obtain ⟨hunits, hnormal⟩ := roundedUnits_bounds hnum hden
  have hround := abs_sub_roundedUnits_le num hden
  have hbits : nearestBits num den = magnitudeBits (roundedUnits num den) (lastPlace num den) := by
    rw [nearestBits, if_neg hnum.ne']
    refine min_eq_right ?_
    show magnitudeBits (roundedUnits num den) (lastPlace num den) ≤ _
    simp only [magnitudeBits, Nat.pow_eq]
    omega
  -- how far off the rounded units are
  have hdistance : |(num / den : ℚ) - roundedUnits num den * (2 : ℚ) ^ lastPlace num den| ≤
      (2 : ℚ) ^ (k - 54) := by
    have hpow : (0 : ℚ) < (2 : ℚ) ^ lastPlace num den := by positivity
    calc |(num / den : ℚ) - roundedUnits num den * (2 : ℚ) ^ lastPlace num den|
        = |(num / den : ℚ) / (2 : ℚ) ^ lastPlace num den - roundedUnits num den| *
            (2 : ℚ) ^ lastPlace num den := by
          rw [← abs_of_pos hpow, ← abs_mul, abs_of_pos hpow, sub_mul, div_mul_cancel₀ _ hpow.ne']
      _ ≤ 1 / 2 * (2 : ℚ) ^ (k - 53) := by
          gcongr
          · norm_num
          · exact hplace.2
      _ = (2 : ℚ) ^ (k - 54) := by
          rw [show k - 53 = k - 54 + 1 by ring, zpow_add_one₀ (by norm_num)]
          ring
  rw [nearest, hbits]
  generalize roundedUnits num den = n at *
  generalize lastPlace num den = e at *
  by_cases hcarry : n = 2 ^ 53
  · -- the mantissa carries into the exponent
    have hsame : magnitudeBits n e = magnitudeBits (2 ^ 52) (e + 1) := by
      simp only [magnitudeBits]
      omega
    have hvalue : (n : ℚ) * (2 : ℚ) ^ e = (2 ^ 52 : ℕ) * (2 : ℚ) ^ (e + 1) := by
      rw [hcarry, zpow_add_one₀ (by norm_num)]
      push_cast
      ring
    rw [hsame]
    rw [hvalue] at hdistance
    exact ⟨2 ^ 52, e + 1, decode_eq_finite_iff.2 ⟨⟨by omega, by omega, by omega, by omega⟩, rfl⟩,
      hdistance⟩
  · exact ⟨n, e, decode_eq_finite_iff.2 ⟨⟨by omega, by omega, by omega, hnormal⟩, rfl⟩, hdistance⟩

end Distance

end Organizer.Double
