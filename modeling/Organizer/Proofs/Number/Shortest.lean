import Organizer.Proofs.Number.Rounding

/-!
# The shortest digits

`shortest` tries decimal grids, each ten times as fine as the one before, until a point of the grid
lies in the neighbourhood of the double. Here it is shown that what it finds does lie there
(`near_value_shortest`), so that it is read back as the same double.

Whatever is found lies there because it was tested. So the work is in the last grid, of seventeen
digits: its step is less than the neighbourhood is wide on either side, and therefore the search
does not fail (`gridPoint?_isSome`).
-/

namespace Organizer.Number

open Double

/-- The number that is meant by digits and a power of ten. -/
def Scientific.value (x : Scientific) : ℚ :=
  x.significand * (10 : ℚ) ^ (x.exponent - (digits x.significand).length + 1)

/-! ### Trailing zeros -/

theorem length_digits_mul_ten {n : Nat} (hn : 0 < n) :
    (digits (10 * n)).length = (digits n).length + 1 := by
  rw [digits_of_ge (by omega), Nat.mul_div_cancel_left _ (by decide)]
  simp

theorem dropZeros_spec (n : Nat) (hn : 0 < n) :
    0 < dropZeros n ∧ ∃ k, n = dropZeros n * 10 ^ k ∧
      (digits n).length = (digits (dropZeros n)).length + k := by
  fun_induction dropZeros n with
  | case1 n h ih =>
    obtain ⟨hpos, k, hk, hlength⟩ := ih (by omega)
    refine ⟨hpos, k + 1, ?_, ?_⟩
    · rw [pow_succ, ← Nat.mul_assoc, ← hk]
      omega
    · have hten : n = 10 * (n / 10) := by omega
      rw [← Nat.add_assoc, ← hlength, ← length_digits_mul_ten (by omega), ← hten]
  | case2 n h => exact ⟨hn, 0, by simp, rfl⟩

/-- How many digits a number has is read off two powers of ten. -/
theorem length_digits_eq {n k : Nat} (hlow : 10 ^ k ≤ n) (hhigh : n < 10 ^ (k + 1)) :
    (digits n).length = k + 1 := by
  obtain ⟨h1, h2⟩ := pow_length_digits n (Nat.lt_of_lt_of_le (Nat.pow_pos (by decide)) hlow)
  have hpos := List.length_pos_of_ne_nil (digits_ne_nil n)
  have h3 := (Nat.pow_lt_pow_iff_right (by decide)).1 (Nat.lt_of_le_of_lt h1 hhigh)
  have h4 := (Nat.pow_lt_pow_iff_right (by decide)).1 (Nat.lt_of_le_of_lt hlow h2)
  omega

/-! ### Decimal grids -/

section Grid

variable {m : Nat} {q : Int}

/-- One unit of the neighbourhood on the common scale. -/
def unitOf (q power : Int) : Nat := Nat.pow 2 (q - 2).toNat * Nat.pow 10 (-power).toNat

/-- One step of the grid on the common scale. -/
def stepOf (q power : Int) : Nat := Nat.pow 2 (2 - q).toNat * Nat.pow 10 power.toNat

theorem stepOf_pos (q power : Int) : 0 < stepOf q power :=
  Nat.mul_pos (pow_toNat_pos (by decide) _) (pow_toNat_pos (by decide) _)

/-- Units and steps count on one scale what they stand for. -/
theorem exists_scale (q power : Int) : ∃ scale : ℚ, 0 < scale ∧
    (unitOf q power : ℚ) = (2 : ℚ) ^ (q - 2) * scale ∧
    (stepOf q power : ℚ) = (10 : ℚ) ^ power * scale := by
  have h2 := pow_toNat_div (by decide : (2 : Nat) ≠ 0) (q - 2)
  have h10 := pow_toNat_div (by decide : (10 : Nat) ≠ 0) power
  rw [neg_sub] at h2
  have hdown2 : (0 : ℚ) < (Nat.pow 2 (2 - q).toNat : Nat) :=
    Nat.cast_pos.2 (pow_toNat_pos (by decide) _)
  have hdown10 : (0 : ℚ) < (Nat.pow 10 (-power).toNat : Nat) :=
    Nat.cast_pos.2 (pow_toNat_pos (by decide) _)
  refine ⟨(Nat.pow 2 (2 - q).toNat : Nat) * (Nat.pow 10 (-power).toNat : Nat),
    mul_pos hdown2 hdown10, ?_, ?_⟩
  · rw [unitOf, Nat.cast_mul, (div_eq_iff hdown2.ne').1 h2]
    push_cast
    ring
  · rw [stepOf, Nat.cast_mul, (div_eq_iff hdown10.ne').1 h10]
    push_cast
    ring

/-- The test of a grid point is exact. -/
theorem holds_iff_near (power : Int) (n : Nat) :
    (neighbourhood m q).holds (unitOf q power) (stepOf q power) n = true ↔
      Near m q (n * (10 : ℚ) ^ power) := by
  obtain ⟨scale, hpos, hunit, hstep⟩ := exists_scale q power
  have hle (a b : Nat) (x y : ℚ) (hx : (a : ℚ) = x * scale) (hy : (b : ℚ) = y * scale) :
      (a ≤ b ↔ x ≤ y) ∧ (a < b ↔ x < y) := by
    rw [← Nat.cast_le (α := ℚ), ← Nat.cast_lt (α := ℚ), hx, hy, mul_le_mul_iff_left₀ hpos,
      mul_lt_mul_iff_left₀ hpos]
    exact ⟨Iff.rfl, Iff.rfl⟩
  have hpoint : ((n * stepOf q power : Nat) : ℚ) = n * (10 : ℚ) ^ power * scale := by
    rw [Nat.cast_mul, hstep, mul_assoc]
  have hend (a : Nat) : ((a * unitOf q power : Nat) : ℚ) = a * (2 : ℚ) ^ (q - 2) * scale := by
    rw [Nat.cast_mul, hunit, mul_assoc]
  simp only [Neighbourhood.holds, Near]
  split
  · rw [Bool.and_eq_true, decide_eq_true_iff, decide_eq_true_iff,
      (hle _ _ _ _ (hend _) hpoint).1, (hle _ _ _ _ hpoint (hend _)).1]
  · rw [Bool.and_eq_true, decide_eq_true_iff, decide_eq_true_iff,
      (hle _ _ _ _ (hend _) hpoint).2, (hle _ _ _ _ hpoint (hend _)).2]

/-- The double itself, counted in steps of the grid. -/
theorem centre_div_step (power : Int) :
    (((neighbourhood m q).centre * unitOf q power : Nat) : ℚ) / stepOf q power =
      m * (2 : ℚ) ^ q / (10 : ℚ) ^ power := by
  obtain ⟨scale, hpos, hunit, hstep⟩ := exists_scale q power
  rw [Nat.cast_mul, hunit, hstep, ← mul_assoc, mul_div_mul_right _ _ hpos.ne']
  congr 1
  rw [zpow_sub₀ (by norm_num)]
  simp only [neighbourhood]
  push_cast
  ring

/-- What a grid offers lies in the neighbourhood, and next to the double. -/
theorem gridPoint?_eq_some {power : Int} {n : Nat}
    (h : gridPoint? (neighbourhood m q) (unitOf q power) (stepOf q power) = some n) :
    Near m q (n * (10 : ℚ) ^ power) ∧
      (n = (neighbourhood m q).centre * unitOf q power / stepOf q power ∨
        n = (neighbourhood m q).centre * unitOf q power / stepOf q power + 1) := by
  simp only [gridPoint?] at h
  generalize hbelow : (neighbourhood m q).centre * unitOf q power / stepOf q power = below at h ⊢
  have hnearer : roundDiv ((neighbourhood m q).centre * unitOf q power) (stepOf q power) = below ∨
      roundDiv ((neighbourhood m q).centre * unitOf q power) (stepOf q power) = below + 1 := by
    simp only [roundDiv, hbelow]
    split
    · exact .inl rfl
    · exact .inr rfl
  generalize roundDiv ((neighbourhood m q).centre * unitOf q power) (stepOf q power) = nearer
    at h hnearer
  have hfarther : (if nearer = below then below + 1 else below) = below ∨
      (if nearer = below then below + 1 else below) = below + 1 := by
    split
    · exact .inr rfl
    · exact .inl rfl
  generalize (if nearer = below then below + 1 else below) = farther at h hfarther
  split at h
  · rename_i hholds
    obtain rfl := Option.some.inj h
    exact ⟨(holds_iff_near power nearer).1 hholds, hnearer⟩
  · split at h
    · rename_i hholds
      obtain rfl := Option.some.inj h
      exact ⟨(holds_iff_near power farther).1 hholds, hfarther⟩
    · exact absurd h (by simp)

/-- **A step below the width of the neighbourhood finds a point in it.** -/
theorem gridPoint?_isSome {power : Int} (hm : 0 < m) (hr : Representable m q)
    (hstep : (10 : ℚ) ^ power * 10 ^ 16 ≤ m * (2 : ℚ) ^ q) :
    (gridPoint? (neighbourhood m q) (unitOf q power) (stepOf q power)).isSome := by
  have htwo : (0 : ℚ) < (2 : ℚ) ^ q := by positivity
  have hten : (0 : ℚ) < (10 : ℚ) ^ power := by positivity
  have hround := abs_sub_roundDiv_le ((neighbourhood m q).centre * unitOf q power)
    (stepOf_pos q power)
  rw [centre_div_step] at hround
  simp only [gridPoint?]
  generalize roundDiv ((neighbourhood m q).centre * unitOf q power) (stepOf q power) = nearer
    at hround ⊢
  have hnear : Near m q (nearer * (10 : ℚ) ^ power) := by
    have hmantissa : (m : ℚ) < 2 ^ 53 := by exact_mod_cast hr.mantissa_lt
    -- All in units of the distance to the upper neighbour, the step of the grid included.
    obtain ⟨step, hstep_eq⟩ : ∃ step : ℚ, step = (10 : ℚ) ^ power / (2 : ℚ) ^ q := ⟨_, rfl⟩
    have hpos : 0 < step := by
      rw [hstep_eq]
      positivity
    have hsmall : step * 10 ^ 16 ≤ m := by
      rw [hstep_eq, div_mul_eq_mul_div, div_le_iff₀ htwo]
      exact hstep
    have hpoint : nearer * (10 : ℚ) ^ power / (2 : ℚ) ^ q = nearer * step := by
      rw [hstep_eq, mul_div_assoc]
    have hcentre : (m : ℚ) * (2 : ℚ) ^ q / (10 : ℚ) ^ power * step = m := by
      rw [hstep_eq]
      field_simp
    have hdistance : |m - nearer * step| ≤ step / 2 := by
      have h := mul_le_mul_of_nonneg_right hround hpos.le
      rw [← abs_of_pos hpos, ← abs_mul, abs_of_pos hpos, sub_mul, hcentre] at h
      linarith
    obtain ⟨hlow, hhigh⟩ := abs_le.1 hdistance
    have hlt : ((neighbourhood m q).low / 4 : ℚ) < nearer * step := by
      by_cases hpower : m = Nat.pow 2 52 ∧ -1074 < q
      · have hlow4 : ((neighbourhood m q).low : ℚ) + 1 = 4 * m := by
          simp only [neighbourhood, if_pos hpower]
          exact_mod_cast (by omega : 4 * m - 1 + 1 = 4 * m)
        have hm52 : (m : ℚ) = 2 ^ 52 := by
          rw [hpower.1]
          norm_num
        linarith
      · have hlow4 : ((neighbourhood m q).low : ℚ) + 2 = 4 * m := by
          simp only [neighbourhood, if_neg hpower]
          exact_mod_cast (by omega : 4 * m - 2 + 2 = 4 * m)
        linarith
    have hgt : nearer * step < m + 1 / 2 := by linarith
    rw [near_iff, hpoint]
    split
    · exact ⟨hlt.le, hgt.le⟩
    · exact ⟨hlt, hgt⟩
  rw [if_pos ((holds_iff_near power nearer).2 hnear)]
  rfl

end Grid

/-! ### The search -/

section Search

variable {m : Nat} {q : Int}

/-- The point of the grid below a double has as many digits as the grid has places. -/
theorem floor_between_powers {exponent : Int} (places : Nat)
    (hlow : (10 : ℚ) ^ exponent ≤ m * (2 : ℚ) ^ q)
    (hhigh : m * (2 : ℚ) ^ q < (10 : ℚ) ^ (exponent + 1)) :
    let power : Int := exponent - places
    10 ^ places ≤ (neighbourhood m q).centre * unitOf q power / stepOf q power ∧
      (neighbourhood m q).centre * unitOf q power / stepOf q power < 10 ^ (places + 1) := by
  intro power
  have hten : (0 : ℚ) < (10 : ℚ) ^ power := by positivity
  have hstep : (0 : ℚ) < stepOf q power := Nat.cast_pos.2 (stepOf_pos q power)
  have hcentre := centre_div_step (m := m) (q := q) power
  constructor
  · rw [Nat.le_div_iff_mul_le (stepOf_pos q power)]
    have h : ((10 ^ places : Nat) : ℚ) ≤
        (((neighbourhood m q).centre * unitOf q power : Nat) : ℚ) / stepOf q power := by
      rw [hcentre, le_div_iff₀ hten]
      refine le_trans (le_of_eq ?_) hlow
      rw [Nat.cast_pow, Nat.cast_ofNat, ← zpow_natCast, ← zpow_add₀ (by norm_num)]
      congr 1
      omega
    rw [le_div_iff₀ hstep] at h
    exact_mod_cast h
  · rw [Nat.div_lt_iff_lt_mul (stepOf_pos q power)]
    have h : (((neighbourhood m q).centre * unitOf q power : Nat) : ℚ) / stepOf q power <
        ((10 ^ (places + 1) : Nat) : ℚ) := by
      rw [hcentre, div_lt_iff₀ hten]
      refine lt_of_lt_of_eq hhigh ?_
      rw [Nat.cast_pow, Nat.cast_ofNat, ← zpow_natCast, ← zpow_add₀ (by norm_num)]
      congr 1
      push_cast
      omega
    rw [div_lt_iff₀ hstep] at h
    exact_mod_cast h

/-- A point that a grid offers, as a number of seventeen digits. -/
theorem scaled_gridPoint {exponent : Int} (hlow : (10 : ℚ) ^ exponent ≤ m * (2 : ℚ) ^ q)
    (hhigh : m * (2 : ℚ) ^ q < (10 : ℚ) ^ (exponent + 1)) {places n : Nat} (hplaces : places ≤ 16)
    (h : gridPoint? (neighbourhood m q) (unitOf q (exponent - places))
      (stepOf q (exponent - places)) = some n) :
    Near m q ((n * 10 ^ (16 - places) : Nat) * (10 : ℚ) ^ (exponent - 16)) ∧
      10 ^ 16 ≤ n * 10 ^ (16 - places) ∧ n * 10 ^ (16 - places) ≤ 10 ^ 17 := by
  obtain ⟨hnear, hn⟩ := gridPoint?_eq_some h
  obtain ⟨h1, h2⟩ := floor_between_powers places hlow hhigh
  have hge : 10 ^ places ≤ n := by omega
  have hle : n ≤ 10 ^ (places + 1) := by omega
  have hvalue : ((n * 10 ^ (16 - places) : Nat) : ℚ) * (10 : ℚ) ^ (exponent - 16) =
      n * (10 : ℚ) ^ (exponent - places) := by
    rw [Nat.cast_mul, Nat.cast_pow, Nat.cast_ofNat, mul_assoc, ← zpow_natCast,
      ← zpow_add₀ (by norm_num)]
    congr 2
    omega
  refine ⟨hvalue ▸ hnear, ?_, ?_⟩
  · calc 10 ^ 16 = 10 ^ places * 10 ^ (16 - places) := by rw [← pow_add]; congr 1; omega
      _ ≤ n * 10 ^ (16 - places) := Nat.mul_le_mul_right _ hge
  · calc n * 10 ^ (16 - places) ≤ 10 ^ (places + 1) * 10 ^ (16 - places) :=
          Nat.mul_le_mul_right _ hle
      _ = 10 ^ 17 := by rw [← pow_add]; congr 1; omega

/-- What the search finds, as a number of seventeen digits. -/
theorem shortestFrom_spec (hm : 0 < m) (hr : Representable m q) {exponent : Int}
    (hlow : (10 : ℚ) ^ exponent ≤ m * (2 : ℚ) ^ q)
    (hhigh : m * (2 : ℚ) ^ q < (10 : ℚ) ^ (exponent + 1)) {fuel places : Nat}
    (hsum : places + fuel = 16) :
    let n := shortestFrom (neighbourhood m q) q exponent (fuel + 1) (places + 1)
    Near m q (n * (10 : ℚ) ^ (exponent - 16)) ∧ 10 ^ 16 ≤ n ∧ n ≤ 10 ^ 17 := by
  have hunfold (fuel places : Nat) :
      shortestFrom (neighbourhood m q) q exponent (fuel + 1) (places + 1) =
        (gridPoint? (neighbourhood m q) (unitOf q (exponent - places))
          (stepOf q (exponent - places))).elim
            (shortestFrom (neighbourhood m q) q exponent fuel (places + 1 + 1))
            (fun n ↦ n * 10 ^ (16 - places)) := by
    have hpower : exponent - (((places + 1 : Nat) : Int) - 1) = exponent - places := by omega
    rw [shortestFrom, hpower, Nat.add_sub_add_right 16 1 places, unitOf, stepOf]
    split
    · rename_i hgrid
      rw [hgrid]
      rfl
    · rename_i hgrid
      rw [hgrid]
      rfl
  induction fuel generalizing places with
  | zero =>
    -- The grid of seventeen places is fine enough.
    obtain rfl : places = 16 := by omega
    have hstep : (10 : ℚ) ^ (exponent - ((16 : Nat) : Int)) * 10 ^ 16 ≤ m * (2 : ℚ) ^ q := by
      refine le_trans (le_of_eq ?_) hlow
      rw [← zpow_natCast, ← zpow_add₀ (by norm_num)]
      congr 1
      omega
    obtain ⟨n, hn⟩ := Option.isSome_iff_exists.1 (gridPoint?_isSome hm hr hstep)
    simp only [hunfold, hn, Option.elim_some]
    exact scaled_gridPoint hlow hhigh (le_refl 16) hn
  | succ fuel ih =>
    rw [hunfold]
    cases hn : gridPoint? (neighbourhood m q) (unitOf q (exponent - places))
      (stepOf q (exponent - places)) with
    | some n => exact scaled_gridPoint hlow hhigh (by omega) hn
    | none => exact ih (by omega)

/-- **The shortest digits lie in the neighbourhood of the double.** -/
theorem near_value_shortest (hm : 0 < m) (hr : Representable m q) :
    0 < (shortest m q).significand ∧ Near m q (shortest m q).value := by
  have hx : (((m * Nat.pow 2 q.toNat : Nat) : ℚ) / (Nat.pow 2 (-q).toNat : Nat)) =
      m * (2 : ℚ) ^ q := by
    rw [Nat.cast_mul, mul_div_assoc, pow_toNat_div (by decide : (2 : Nat) ≠ 0)]
    rfl
  obtain ⟨hlow, hhigh⟩ := floorLog10_spec
    (Nat.mul_pos hm (pow_toNat_pos (by decide : (2 : Nat) ≠ 0) q))
    (pow_toNat_pos (by decide : (2 : Nat) ≠ 0) (-q))
  rw [hx] at hlow hhigh
  obtain ⟨hnear, hge, hle⟩ := shortestFrom_spec hm hr hlow hhigh (rfl : 0 + 16 = 16)
  simp only [shortest]
  generalize floorLog10 (m * Nat.pow 2 q.toNat) (Nat.pow 2 (-q).toNat) = exponent at *
  rw [Nat.zero_add] at hnear hge hle
  generalize shortestFrom (neighbourhood m q) q exponent (16 + 1) 1 = n at *
  -- seventeen nines may be rounded up to a power of ten, which has one digit more
  split
  · rename_i hn
    refine ⟨Nat.one_pos, ?_⟩
    have hvalue : (⟨1, exponent + 1⟩ : Scientific).value = n * (10 : ℚ) ^ (exponent - 16) := by
      have hn' : (n : ℚ) = (10 : ℚ) ^ (17 : Int) := by
        rw [hn]
        norm_num
      simp only [Scientific.value, digits_of_lt (by decide : 1 < 10), List.length_singleton]
      rw [hn', ← zpow_add₀ (by norm_num), Nat.cast_one, one_mul]
      congr 1
      omega
    rwa [hvalue]
  · rename_i hn
    have hn' : n < 10 ^ 17 := Nat.lt_of_le_of_ne hle hn
    obtain ⟨hpos, k, hk, hlength⟩ := dropZeros_spec n (by omega)
    rw [length_digits_eq hge hn'] at hlength
    refine ⟨hpos, ?_⟩
    have hvalue : (⟨dropZeros n, exponent⟩ : Scientific).value =
        n * (10 : ℚ) ^ (exponent - 16) := by
      have hcast : (n : ℚ) = dropZeros n * (10 : ℚ) ^ (k : Int) := by
        rw [zpow_natCast]
        exact_mod_cast hk
      rw [hcast, Scientific.value, mul_assoc, ← zpow_add₀ (by norm_num)]
      congr 2
      dsimp only
      omega
    rwa [hvalue]

end Search

end Organizer.Number
