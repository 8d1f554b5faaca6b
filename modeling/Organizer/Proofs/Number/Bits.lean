import Mathlib.Algebra.Ring.Nat
import Mathlib.Logic.Basic
import Organizer.Number.Double

/-!
# Doubles and their bit patterns

A double is its bit pattern, with one pattern for all that are no number, so that going to the bits
and back changes nothing (`ofBits_toBits`). `decode` takes the three fields of the pattern apart.
Here it is undone: each case of `decode` determines the double.

* A finite double is given by its sign, its mantissa and its exponent, which are in the ranges that
  `Representable` lists. The exponent and the mantissa lie side by side in the pattern, so that the
  pattern is a sum, `magnitudeBits`.
* An infinite double is `infinity`, and what is no number is `notANumber`.
-/

namespace Organizer.Double

open Float.Model Float.Model.UnpackedFloat

/-! ### The three fields -/

/-- A bit pattern of a double. -/
abbrev Pattern := BitVec Format.binary64.numBits

theorem toNat_unpackMantissa (b : Pattern) : (unpackMantissa b).toNat = b.toNat % 2 ^ 52 := by
  simp [unpackMantissa]

theorem toNat_unpackExponent (b : Pattern) :
    (unpackExponent b).toNat = b.toNat / 2 ^ 52 % 2 ^ 11 := by
  simp [unpackExponent, Nat.shiftRight_eq_div_pow]

theorem toNat_unpackSign (b : Pattern) : (unpackSign b).toNat = b.toNat / 2 ^ 63 := by
  have h : b.toNat < 2 ^ 64 := b.isLt
  show ((b.extractLsb 63 63).cast (by decide)).toNat = _
  simp [Nat.shiftRight_eq_div_pow]
  omega

theorem toBitVec_ofBitVec (b : BitVec 1) : (Sign.ofBitVec b).toBitVec = b := by
  decide +revert

theorem toNat_packComponents (s : Sign) (e : BitVec 11) (m : BitVec 52) :
    (packComponents Format.binary64 s e m).toNat =
      s.toBitVec.toNat * 2 ^ 63 + e.toNat * 2 ^ 52 + m.toNat := by
  have he := e.isLt
  have hm := m.isLt
  rw [packComponents, BitVec.toNat_append, BitVec.toNat_append,
    ← Nat.shiftLeft_add_eq_or_of_lt hm, ← Nat.shiftLeft_add_eq_or_of_lt he, Nat.shiftLeft_eq,
    Nat.shiftLeft_eq]
  omega

theorem packComponents_fields (b : Pattern) :
    packComponents Format.binary64 (Sign.ofBitVec (unpackSign b)) (unpackExponent b)
      (unpackMantissa b) = b := by
  apply BitVec.eq_of_toNat_eq
  rw [toNat_packComponents, toBitVec_ofBitVec, toNat_unpackMantissa, toNat_unpackExponent,
    toNat_unpackSign]
  have h : b.toNat < 2 ^ 64 := b.isLt
  omega

/-! ### There and back -/

/-- How a finite number is packed: the mantissa tells whether there is an implicit bit. -/
theorem pack_finite (s : Sign) (m : Nat) (q : Int) (h : 0 < m) :
    UnpackedFloat.pack Format.binary64 (.finite s m q h) =
      if 2 ^ 11 ≤ (q + (1023 : Nat) + (52 : Nat)).toNat + 1 then
        packedInfinity Format.binary64 s
      else if m.log2 + 1 = 53 then
        packComponents Format.binary64 s (BitVec.ofNat 11 (q + (1023 : Nat) + (52 : Nat)).toNat)
          (BitVec.ofNat 52 m)
      else packComponents Format.binary64 s 0#11 (BitVec.ofNat 52 m) :=
  rfl

theorem pack_subnormal {s : Sign} {e : BitVec 11} {m : BitVec 52} {q : Int} (he : e = 0#11)
    (hq : q = -1074) (h : 0 < m.toNat) :
    UnpackedFloat.pack Format.binary64 (.finite s m.toNat q h) =
      packComponents Format.binary64 s e m := by
  have hm := m.isLt
  have hlog : m.toNat.log2 < 52 := (Nat.log2_lt (Nat.ne_of_gt h)).2 hm
  rw [pack_finite, if_neg (by omega), if_neg (by omega), he, BitVec.ofNat_toNat,
    BitVec.setWidth_eq]

theorem pack_normal {s : Sign} {e : BitVec 11} {m : BitVec 52} (he : e.toNat + 1 < 2 ^ 11)
    (h : 0 < (1#1 ++ m).toNat) :
    UnpackedFloat.pack Format.binary64
        (.finite s (1#1 ++ m).toNat ((e.toNat : Int) - (1023 + 52 : Nat)) h) =
      packComponents Format.binary64 s e m := by
  have hm := m.isLt
  have htoNat : (1#1 ++ m).toNat = 2 ^ 52 + m.toNat := by
    rw [BitVec.toNat_append, ← Nat.shiftLeft_add_eq_or_of_lt hm, Nat.shiftLeft_eq]
    rfl
  have hlog : (2 ^ 52 + m.toNat).log2 = 52 :=
    (Nat.log2_eq_iff (by omega)).2 ⟨by omega, by omega⟩
  have hbiased : ((e.toNat : Int) - (1023 + 52 : Nat) + (1023 : Nat) + (52 : Nat)).toNat =
      e.toNat := by
    omega
  have hexponent : BitVec.ofNat 11 e.toNat = e :=
    BitVec.eq_of_toNat_eq (by rw [BitVec.toNat_ofNat]; omega)
  have hmantissa : BitVec.ofNat 52 (2 ^ 52 + m.toNat) = m :=
    BitVec.eq_of_toNat_eq (by rw [BitVec.toNat_ofNat]; omega)
  rw [pack_finite, hbiased, htoNat, hlog, if_neg (by omega), if_pos rfl, hexponent, hmantissa]

theorem pack_unpack {b : Pattern} (hb : Format.binary64.Valid b) :
    UnpackedFloat.pack Format.binary64 (UnpackedFloat.unpack Format.binary64 b) = b := by
  unfold UnpackedFloat.unpack
  extract_lets m e exponent s sign
  have hfields : packComponents Format.binary64 sign e m = b := packComponents_fields b
  by_cases hlast : e = -1#_
  · rw [if_pos hlast]
    by_cases hm : m = 0#_
    · rw [if_pos hm, ← hfields, hlast, hm]
      rfl
    · rw [if_neg hm]
      exact (hb.eq_packedNaN hlast hm).symm
  · rw [if_neg hlast]
    have he : e.toNat + 1 < 2 ^ 11 := by
      have hlt : e.toNat < 2 ^ 11 := e.isLt
      have hne : e.toNat ≠ 2 ^ 11 - 1 := fun h ↦ hlast (BitVec.eq_of_toNat_eq h)
      omega
    by_cases hfirst : e = 0#_
    · rw [if_pos hfirst]
      by_cases hm : m = 0#_
      · rw [dif_pos hm, ← hfields, hfirst, hm]
        rfl
      · rw [dif_neg hm]
        refine Eq.trans ?_ hfields
        have hexponent : exponent + 1 = -1074 := by
          simp only [exponent, hfirst]
          rfl
        exact pack_subnormal hfirst hexponent _
    · rw [if_neg hfirst]
      refine Eq.trans ?_ hfields
      exact pack_normal he _

/-- **A double is its bit pattern.** -/
theorem ofBits_toBits (x : Float) : Float.ofBits x.toBits = x := by
  obtain ⟨bits, hvalid⟩ := x
  show Float.ofModel ⟨UInt64.ofBitVec (UnpackedFloat.pack Format.binary64
    (UnpackedFloat.unpack Format.binary64 bits.toBitVec)), _⟩ = _
  congr 2
  rw [pack_unpack hvalid]

/-! ### Undoing `decode` -/

/-- The pairs of a mantissa and an exponent that finite doubles have. A mantissa below 2^52 stands
with the least exponent only. -/
structure Representable (m : Nat) (q : Int) : Prop where
  mantissa_lt : m < 2 ^ 53
  le_exponent : -1074 ≤ q
  exponent_le : q ≤ 971
  normal : m < 2 ^ 52 → q = -1074

/-- The bit pattern of a double that is not negative. -/
def magnitudeBits (m : Nat) (q : Int) : Nat := (q + 1074).toNat * 2 ^ 52 + m

theorem eq_ofBits (x : Float) : x = Float.ofBits (UInt64.ofNat x.toBits.toNat) := by
  rw [UInt64.ofNat_toNat, ofBits_toBits]

/-- A pattern is put together from its fields. -/
theorem eq_fields {b : Nat} (h : b < 2 ^ 64) :
    b = b / 2 ^ 52 % 2 ^ 11 * 2 ^ 52 + b % 2 ^ 52 + signBit (b / 2 ^ 63 == 1) := by
  have hsign : signBit (b / 2 ^ 63 == 1) = b / 2 ^ 63 * 2 ^ 63 := by
    have hle : b / 2 ^ 63 = 0 ∨ b / 2 ^ 63 = 1 := by omega
    rcases hle with h0 | h1
    · rw [h0]
      rfl
    · rw [h1]
      rfl
  rw [hsign]
  omega

/-- Only one pattern stands for what is no number. -/
theorem toNat_toBits_of_nan {x : Float} (hexponent : x.toBits.toNat / 2 ^ 52 % 2 ^ 11 = 2047)
    (hmantissa : x.toBits.toNat % 2 ^ 52 ≠ 0) : x.toBits.toNat = 2047 * 2 ^ 52 + 2 ^ 51 := by
  have hlast : @unpackExponent Format.binary64 x.toBits.toBitVec = -1#_ :=
    BitVec.eq_of_toNat_eq ((toNat_unpackExponent _).trans hexponent)
  have hne : @unpackMantissa Format.binary64 x.toBits.toBitVec ≠ 0#_ := fun h ↦
    hmantissa ((toNat_unpackMantissa _).symm.trans (congrArg BitVec.toNat h))
  exact congrArg BitVec.toNat (x.toModel.valid.eq_packedNaN hlast hne)

variable {x : Float} {negative : Bool}

/-- A finite double is determined by the three parts that it is decoded to. -/
theorem decode_eq_finite {m : Nat} {q : Int} (h : decode x = .finite negative m q) :
    Representable m q ∧
      x = Float.ofBits (UInt64.ofNat (magnitudeBits m q + signBit negative)) := by
  have hfields := eq_fields x.toBits.toNat_lt
  have hx := eq_ofBits x
  simp only [decode, Nat.pow_eq] at h
  generalize x.toBits.toNat = b at hfields hx h
  have hbiased : b / 2 ^ 52 % 2 ^ 11 < 2048 := Nat.mod_lt _ (by decide)
  have hfraction : b % 2 ^ 52 < 2 ^ 52 := Nat.mod_lt _ (by decide)
  generalize b / 2 ^ 52 % 2 ^ 11 = biased at hfields hbiased h
  generalize b % 2 ^ 52 = fraction at hfields hfraction h
  split at h
  · split at h <;> exact absurd h (by simp)
  · rename_i hlast
    split at h
    · rename_i hzero
      obtain ⟨rfl, rfl, rfl⟩ := Value.finite.inj h
      refine ⟨⟨by omega, by omega, by omega, fun _ ↦ rfl⟩, ?_⟩
      rw [hx]
      exact congrArg (fun b ↦ Float.ofBits (UInt64.ofNat b)) (hfields.trans (by rw [hzero]; rfl))
    · rename_i hzero
      obtain ⟨rfl, rfl, rfl⟩ := Value.finite.inj h
      refine ⟨⟨by omega, by omega, by omega, by omega⟩, ?_⟩
      have hmagnitude : magnitudeBits (2 ^ 52 + fraction) ((biased : Int) - 1075) =
          biased * 2 ^ 52 + fraction := by
        rw [magnitudeBits]
        omega
      rw [hx, hmagnitude, ← hfields]

theorem decode_eq_infinite (h : decode x = .infinite negative) : x = infinity negative := by
  have hfields := eq_fields x.toBits.toNat_lt
  have hx := eq_ofBits x
  simp only [decode, Nat.pow_eq] at h
  generalize x.toBits.toNat = b at hfields hx h
  split at h
  · rename_i hlast
    split at h
    · rename_i hzero
      obtain rfl := Value.infinite.inj h
      rw [hlast, hzero] at hfields
      rw [hx, infinity]
      exact congrArg (fun b ↦ Float.ofBits (UInt64.ofNat b)) hfields
    · exact absurd h (by simp)
  · split at h <;> exact absurd h (by simp)

theorem decode_eq_notANumber (h : decode x = .notANumber) : x = notANumber := by
  simp only [decode, Nat.pow_eq] at h
  split at h
  · rename_i hlast
    split at h
    · exact absurd h (by simp)
    · rename_i hne
      rw [eq_ofBits x, toNat_toBits_of_nan hlast hne]
      rfl
  · split at h <;> exact absurd h (by simp)

end Organizer.Double
