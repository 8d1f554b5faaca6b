import Mathlib.Data.List.Induction
import Organizer.Json.Printer
import Organizer.Json.Reader
import Organizer.Proofs.Number.Shortest

/-!
# Numbers in files

A number that was written is read back as the same number. For a whole number this is reading the
digits back. For a double there are two halves: whatever the layout makes of the digits, the number
that is read is the one that was meant (`write_eq_numeral`), and that number lies in the
neighbourhood of the double, so that it is rounded to it (`readUnsigned?_write`).

Both meet in `numeral`, the general form of a number in a file: digits, perhaps a point and more
digits, perhaps an exponent.
-/

namespace Organizer.Json

open Number Text Double

/-! ### Runs of digits -/

/-- What may follow a value in a file: nothing, a comma or a line break. -/
def Closes (rest : List Char) : Prop := ∀ c, rest.head? = some c → c = ',' ∨ c = '\n'

/-- Digits as they are written. -/
def writeDigits (ds : List Nat) : List Char := ds.map Nat.digitChar

theorem takeAsciiDigits_writeDigits {ds : List Nat} (hds : ∀ d ∈ ds, d < 10) {rest : List Char}
    (hrest : ∀ c, rest.head? = some c → asciiDigit? c = none) :
    takeAsciiDigits (writeDigits ds ++ rest) = (ds, rest) := by
  induction ds with
  | nil =>
    cases rest with
    | nil => rfl
    | cons c cs =>
      rw [writeDigits, List.map_nil, List.nil_append, takeAsciiDigits, hrest c rfl]
  | cons d ds ih =>
    have hd : d < 10 := hds d (List.mem_cons_self ..)
    have ih' := ih fun d' h ↦ hds d' (List.mem_cons_of_mem _ h)
    rw [writeDigits] at ih' ⊢
    rw [List.map_cons, List.cons_append, takeAsciiDigits, asciiDigit?_digitChar hd]
    simp only [ih']

/-- Digits that can be the whole part of a number. -/
structure Whole (ds : List Nat) : Prop where
  digit : ∀ d ∈ ds, d < 10
  ne_nil : ds ≠ []
  eq_zero : ds.head? = some 0 → ds = [0]

theorem Whole.digits (n : Nat) : Whole (digits n) := by
  refine ⟨fun d ↦ lt_ten_of_mem_digits, digits_ne_nil n, ?_⟩
  intro h
  by_cases hn : n = 0
  · rw [hn]
    exact digits_of_lt (by decide)
  · exact absurd h (head_digits_ne_zero hn)

theorem takeWhole?_writeDigits {ds : List Nat} (hds : Whole ds) {rest : List Char}
    (hrest : ∀ c, rest.head? = some c → asciiDigit? c = none) :
    takeWhole? (writeDigits ds ++ rest) = some (ds, rest) := by
  obtain ⟨hdigit, hne, hzero⟩ := hds
  have htake := takeAsciiDigits_writeDigits hdigit hrest
  obtain ⟨d, ds, rfl⟩ := List.exists_cons_of_ne_nil hne
  by_cases hd : d = 0
  · obtain rfl : ds = [] := by simpa [hd] using hzero (congrArg some hd)
    rw [hd]
    rfl
  · have hd' : d.digitChar ≠ '0' := fun h ↦ hd (Nat.digitChar_eq_zero.1 h)
    rw [takeWhole?]
    · rw [htake]
    · intro cs h
      exact hd' (List.cons.inj h).1

/-! ### The general form of a number -/

/-- The written form of a number: a whole part, places and an exponent. -/
def numeral (whole places : List Nat) (exponent : Option Int) : List Char :=
  writeDigits whole ++ (if places = [] then [] else '.' :: writeDigits places) ++
    (exponent.map fun e ↦ 'e' :: writeExponent e).getD []

theorem closes_head_not_digit {rest : List Char} (h : Closes rest) :
    ∀ c, rest.head? = some c → asciiDigit? c = none := by
  intro c hc
  rcases h c hc with rfl | rfl <;> decide

theorem exponent_head_not_digit (exponent : Option Int) {rest : List Char} (h : Closes rest) :
    ∀ c, ((exponent.map fun e ↦ 'e' :: writeExponent e).getD [] ++ rest).head? = some c →
      asciiDigit? c = none ∧ c ≠ '.' := by
  intro c hc
  cases exponent with
  | none => rcases h c hc with rfl | rfl <;> decide
  | some e =>
    obtain rfl : 'e' = c := by simpa using hc
    decide

theorem takePlaces_of_head_ne {rest : List Char} (h : ∀ c, rest.head? = some c → c ≠ '.') :
    takePlaces rest = ([], rest) := by
  unfold takePlaces
  split
  · exact absurd rfl (h '.' rfl)
  · rfl

theorem takePlaces_writeDigits {places : List Nat} (hplaces : ∀ d ∈ places, d < 10)
    {rest : List Char} (hrest : ∀ c, rest.head? = some c → asciiDigit? c = none ∧ c ≠ '.') :
    takePlaces ((if places = [] then [] else '.' :: writeDigits places) ++ rest) =
      (places, rest) := by
  by_cases hempty : places = []
  · rw [if_pos hempty, hempty]
    exact takePlaces_of_head_ne fun c hc ↦ (hrest c hc).2
  · rw [if_neg hempty]
    obtain ⟨d, ds, rfl⟩ := List.exists_cons_of_ne_nil hempty
    have htake := takeAsciiDigits_writeDigits hplaces fun c hc ↦ (hrest c hc).1
    rw [List.cons_append, takePlaces, htake]

/-- The digits of an exponent, which are at least two. -/
theorem writeExponent_eq (e : Int) : ∃ ds : List Nat, (∀ d ∈ ds, d < 10) ∧ ds ≠ [] ∧
    ofDigits ds = e.natAbs ∧
    writeExponent e = (if e < 0 then '-' else '+') :: writeDigits ds := by
  by_cases hshort : (writeNat e.natAbs).length < 2
  · refine ⟨0 :: digits e.natAbs, ?_, by simp, ?_, ?_⟩
    · intro d hd
      rcases List.mem_cons.1 hd with rfl | hd
      · decide
      · exact lt_ten_of_mem_digits hd
    · have hzero (ds : List Nat) : ofDigits (0 :: ds) = ofDigits ds := rfl
      rw [hzero, ofDigits_digits]
    · simp only [writeExponent, hshort, if_true]
      rfl
  · refine ⟨digits e.natAbs, fun d ↦ lt_ten_of_mem_digits, digits_ne_nil _, ofDigits_digits _, ?_⟩
    simp only [writeExponent, hshort, if_false]
    rfl

theorem takeExponent_write (e : Int) {rest : List Char} (hrest : Closes rest) :
    takeExponent ('e' :: writeExponent e ++ rest) = (some e, rest) := by
  obtain ⟨ds, hds, hne, hvalue, hwrite⟩ := writeExponent_eq e
  have htake := takeAsciiDigits_writeDigits hds (closes_head_not_digit hrest)
  obtain ⟨d, ds, rfl⟩ := List.exists_cons_of_ne_nil hne
  rw [hwrite]
  by_cases he : e < 0
  · simp only [he, if_true, List.cons_append, takeExponent, true_or, htake, hvalue]
    congr 2
    omega
  · simp only [he, if_false, List.cons_append, takeExponent, true_or, if_true, htake, hvalue]
    simp
    omega

theorem takeExponent_closes {rest : List Char} (hrest : Closes rest) :
    takeExponent rest = (none, rest) := by
  cases rest with
  | nil => rfl
  | cons c cs =>
    have hc : ¬ (c = 'e' ∨ c = 'E') := by
      rcases hrest c rfl with rfl | rfl <;> decide
    simp only [takeExponent, if_neg hc]

theorem takeExponent_getD (exponent : Option Int) {rest : List Char} (hrest : Closes rest) :
    takeExponent ((exponent.map fun e ↦ 'e' :: writeExponent e).getD [] ++ rest) =
      (exponent, rest) := by
  cases exponent with
  | none => exact takeExponent_closes hrest
  | some e => exact takeExponent_write e hrest

/-- What follows the whole part of a number is no digit. -/
theorem places_head_not_digit (places : List Nat) {rest : List Char}
    (hrest : ∀ c, rest.head? = some c → asciiDigit? c = none ∧ c ≠ '.') :
    ∀ c, ((if places = [] then [] else '.' :: writeDigits places) ++ rest).head? = some c →
      asciiDigit? c = none := by
  intro c hc
  by_cases hempty : places = []
  · rw [if_pos hempty] at hc
    exact (hrest c hc).1
  · rw [if_neg hempty] at hc
    obtain rfl : '.' = c := by simpa using hc
    decide

/-- A number is read part by part. -/
theorem readUnsigned?_numeral (negative : Bool) {whole places : List Nat} {exponent : Option Int}
    (hwhole : Whole whole) (hplaces : ∀ d ∈ places, d < 10) {rest : List Char}
    (hrest : Closes rest) :
    readUnsigned? negative (numeral whole places exponent ++ rest) =
      if places.isEmpty && exponent.isNone then
        if maxDigits < whole.length then none
        else some (.int (if negative then -(ofDigits whole : Int) else ofDigits whole), rest)
      else some (.double (ofDecimal negative (ofDigits (whole ++ places))
        (exponent.getD 0 - places.length)), rest) := by
  have hexponent := exponent_head_not_digit exponent hrest
  have htakeWhole := takeWhole?_writeDigits hwhole (places_head_not_digit places hexponent)
  have htakePlaces := takePlaces_writeDigits hplaces hexponent
  have htakeExponent := takeExponent_getD exponent hrest
  rw [numeral, List.append_assoc, List.append_assoc]
  simp only [readUnsigned?, htakeWhole, htakePlaces, htakeExponent, Option.bind_eq_bind,
    Option.bind_some, Option.pure_def]

/-! ### Doubles -/

theorem ofDigits_append (as bs : List Nat) :
    ofDigits (as ++ bs) = ofDigits as * 10 ^ bs.length + ofDigits bs := by
  induction bs using List.reverseRecOn with
  | nil => simp [ofDigits_nil]
  | append_singleton bs b ih =>
    rw [← List.append_assoc, ofDigits_append_singleton, ih, ofDigits_append_singleton,
      List.length_append, List.length_singleton, pow_succ]
    ring

theorem ofDigits_replicate_zero (k : Nat) : ofDigits (List.replicate k 0) = 0 := by
  induction k with
  | zero => rfl
  | succ k ih =>
    rw [List.replicate_succ', ofDigits_append_singleton, ih]

theorem writeDigits_replicate_zero (k : Nat) :
    writeDigits (List.replicate k 0) = List.replicate k '0' := by
  rw [writeDigits, List.map_replicate]
  rfl

theorem writeDigits_append (as bs : List Nat) :
    writeDigits (as ++ bs) = writeDigits as ++ writeDigits bs :=
  List.map_append

/-- The text is a number with a point or an exponent, and stands for this value. -/
def Spells (cs : List Char) (value : ℚ) : Prop :=
  ∃ whole places exponent, cs = numeral whole places exponent ∧ Whole whole ∧
    (∀ d ∈ places, d < 10) ∧ (places.isEmpty && exponent.isNone) = false ∧
    (ofDigits (whole ++ places) : ℚ) * (10 : ℚ) ^ (exponent.getD 0 - places.length) = value

section Spells

variable {ds : List Nat}

/-- A zero, a point, more zeros and the digits. -/
theorem spells_leading_zeros (hds : ∀ d ∈ ds, d < 10) (hne : ds ≠ []) (k : Nat) :
    Spells ('0' :: '.' :: (List.replicate k '0' ++ writeDigits ds))
      (ofDigits ds * (10 : ℚ) ^ (-(k : Int) - ds.length)) := by
  have hplaces : List.replicate k 0 ++ ds ≠ [] := by simp [hne]
  refine ⟨[0], List.replicate k 0 ++ ds, none, ?_, ⟨by simp, by simp, by simp⟩, ?_, ?_, ?_⟩
  · rw [numeral, if_neg hplaces, writeDigits_append, writeDigits_replicate_zero]
    simp [writeDigits]
  · intro d hd
    rcases List.mem_append.1 hd with hd | hd
    · rw [List.eq_of_mem_replicate hd]
      decide
    · exact hds d hd
  · simpa using fun _ ↦ hne
  · have hvalue : ofDigits ([0] ++ (List.replicate k 0 ++ ds)) = ofDigits ds := by
      rw [ofDigits_append, ofDigits_append, ofDigits_replicate_zero]
      simp [ofDigits]
    have hexponent : (none : Option Int).getD 0 - ((List.replicate k 0 ++ ds).length : Int) =
        -(k : Int) - ds.length := by
      simp
      omega
    rw [hvalue, hexponent]

/-- The digits, zeros up to the point, and a zero behind it. -/
theorem spells_trailing_zeros (hds : ∀ d ∈ ds, d < 10) (hne : ds ≠ [])
    (hhead : ds.head? ≠ some 0) (k : Nat) :
    Spells (writeDigits ds ++ List.replicate k '0' ++ ['.', '0'])
      (ofDigits ds * (10 : ℚ) ^ (k : Int)) := by
  obtain ⟨d, ds', rfl⟩ := List.exists_cons_of_ne_nil hne
  refine ⟨d :: ds' ++ List.replicate k 0, [0], none, ?_, ⟨?_, by simp, ?_⟩, by simp, by simp, ?_⟩
  · rw [numeral, writeDigits_append, writeDigits_replicate_zero]
    simp [writeDigits]
  · intro d' hd
    rcases List.mem_append.1 hd with hd | hd
    · exact hds d' hd
    · rw [List.eq_of_mem_replicate hd]
      decide
  · exact fun h ↦ absurd (by simpa using h) hhead
  · rw [ofDigits_append, ofDigits_append, ofDigits_replicate_zero]
    simp [ofDigits]

/-- The digits with a point among them. -/
theorem spells_point (hds : ∀ d ∈ ds, d < 10) (hhead : ds.head? ≠ some 0) {k : Nat}
    (hpos : 0 < k) (hk : k < ds.length) :
    Spells ((writeDigits ds).take k ++ '.' :: (writeDigits ds).drop k)
      (ofDigits ds * (10 : ℚ) ^ ((k : Int) - ds.length)) := by
  have hdrop : ds.drop k ≠ [] := by
    intro h
    have := List.drop_eq_nil_iff.1 h
    omega
  have htake : ds.take k ≠ [] := by
    intro h
    rcases List.take_eq_nil_iff.1 h with h | rfl
    · omega
    · simp at hk
  refine ⟨ds.take k, ds.drop k, none, ?_, ⟨?_, htake, ?_⟩, ?_, by simpa using hk, ?_⟩
  · rw [numeral, if_neg hdrop, writeDigits, writeDigits, writeDigits, List.map_take, List.map_drop]
    simp
  · exact fun d hd ↦ hds d (List.mem_of_mem_take hd)
  · rw [List.head?_take, if_neg (by omega)]
    exact fun h ↦ absurd h hhead
  · exact fun d hd ↦ hds d (List.mem_of_mem_drop hd)
  · have hexponent : (none : Option Int).getD 0 - ((ds.drop k).length : Int) = k - ds.length := by
      rw [List.length_drop, Option.getD_none]
      omega
    rw [List.take_append_drop, hexponent]

/-- The digits with a point behind the first, and an exponent. -/
theorem spells_exponent (hds : ∀ d ∈ ds, d < 10) (hne : ds ≠ []) (hhead : ds.head? ≠ some 0)
    (e : Int) :
    Spells ((match writeDigits ds with
      | [d] => [d]
      | d :: r => d :: '.' :: r
      | [] => []) ++ 'e' :: writeExponent e)
      (ofDigits ds * (10 : ℚ) ^ (e - ds.length + 1)) := by
  obtain ⟨d, places, rfl⟩ := List.exists_cons_of_ne_nil hne
  refine ⟨[d], places, some e, ?_, ⟨?_, by simp, ?_⟩, ?_, by simp, ?_⟩
  · cases places with
    | nil => simp [numeral, writeDigits]
    | cons p ps => simp [numeral, writeDigits]
  · exact fun d' hd ↦ hds d' (List.mem_singleton.1 hd ▸ List.mem_cons_self ..)
  · exact fun h ↦ absurd h hhead
  · exact fun d' hd ↦ hds d' (List.mem_cons_of_mem _ hd)
  · have hexponent : (some e).getD 0 - (places.length : Int) =
        e - ((d :: places).length : Int) + 1 := by
      rw [List.length_cons, Option.getD_some]
      omega
    rw [List.singleton_append, hexponent]

end Spells

/-- **Wherever the layout puts the point, the number is the one that was meant.** -/
theorem spells_write {x : Scientific} (hx : 0 < x.significand) :
    Spells (x.write doubleLayout) x.value := by
  obtain ⟨s, e⟩ := x
  have hds : ∀ d ∈ digits s, d < 10 := fun d ↦ lt_ten_of_mem_digits
  have hne : digits s ≠ [] := digits_ne_nil s
  have hhead : (digits s).head? ≠ some 0 := head_digits_ne_zero hx.ne'
  have hvalue : (s : ℚ) = ofDigits (digits s) := by rw [ofDigits_digits]
  have hpos := List.length_pos_of_ne_nil hne
  simp only [Scientific.value, Scientific.write]
  rw [show writeNat s = writeDigits (digits s) from rfl, hvalue]
  have hlength : (writeDigits (digits s)).length = (digits s).length := List.length_map _
  generalize digits s = ds at *
  -- the layout puts the point before, behind or among the digits, or else writes an exponent
  split
  · split
    · have hexponent : -((-e - 1).toNat : Int) - ds.length = e - ds.length + 1 := by omega
      rw [← hexponent]
      exact spells_leading_zeros hds hne _
    · rw [hlength]
      split
      · have hexponent : ((e.toNat + 1 - ds.length : Nat) : Int) = e - ds.length + 1 := by omega
        rw [← hexponent]
        exact spells_trailing_zeros hds hne hhead _
      · have hexponent : ((e.toNat + 1 : Nat) : Int) - ds.length = e - ds.length + 1 := by omega
        rw [← hexponent]
        exact spells_point hds hhead (Nat.succ_pos _) (by omega)
  · exact spells_exponent hds hne hhead e

/-- All neighbourhoods lie between these powers of ten. -/
theorem near_between_powers {m : Nat} {q : Int} {v : ℚ} (hm : 0 < m) (hr : Representable m q)
    (h : Near m q v) : (10 : ℚ) ^ (-330 : Int) < v ∧ v < (10 : ℚ) ^ (310 : Int) := by
  have hpow : (0 : ℚ) < (2 : ℚ) ^ q := by positivity
  obtain ⟨h1, h2⟩ := abs_le.1 (h.abs_sub_le hm).1
  have hm' : (1 : ℚ) ≤ m := by exact_mod_cast hm
  have hlt : (m + 1 : ℚ) ≤ 2 ^ 53 := by exact_mod_cast hr.mantissa_lt
  constructor
  · have hsmall : (2 ^ 1075 : ℚ) < 10 ^ 330 := by
      exact_mod_cast (by decide +kernel : 2 ^ 1075 < 10 ^ 330)
    calc (10 : ℚ) ^ (-330 : Int) = ((10 : ℚ) ^ 330)⁻¹ := by rw [zpow_neg]; rfl
      _ < ((2 : ℚ) ^ 1075)⁻¹ := inv_strictAnti₀ (by positivity) hsmall
      _ = 1 / 2 * (2 : ℚ) ^ (-1074 : Int) := by
          rw [pow_succ, zpow_neg, mul_inv, mul_comm, one_div]
          rfl
      _ ≤ 1 / 2 * (2 : ℚ) ^ q :=
          mul_le_mul_of_nonneg_left (zpow_le_zpow_right₀ (by norm_num) hr.le_exponent)
            (by norm_num)
      _ ≤ v / (2 : ℚ) ^ q * (2 : ℚ) ^ q := by
          refine mul_le_mul_of_nonneg_right ?_ hpow.le
          linarith
      _ = v := div_mul_cancel₀ v hpow.ne'
  · have hlarge : (2 ^ 53 * 2 ^ 971 : ℚ) < 10 ^ 310 := by
      exact_mod_cast (by decide +kernel : 2 ^ 53 * 2 ^ 971 < 10 ^ 310)
    calc v = v / (2 : ℚ) ^ q * (2 : ℚ) ^ q := (div_mul_cancel₀ v hpow.ne').symm
      _ ≤ 2 ^ 53 * (2 : ℚ) ^ q := by
          gcongr
          linarith
      _ ≤ 2 ^ 53 * (2 : ℚ) ^ (971 : Int) :=
          mul_le_mul_of_nonneg_left (zpow_le_zpow_right₀ (by norm_num) hr.exponent_le)
            (by positivity)
      _ < (10 : ℚ) ^ (310 : Int) := hlarge

theorem ofDecimal_of_near (negative : Bool) {m : Nat} {q : Int} (hm : 0 < m)
    (hr : Representable m q) {n : Nat} {e : Int} (h : Near m q (n * (10 : ℚ) ^ e)) :
    ofDecimal negative n e =
      Float.ofBits (UInt64.ofNat (magnitudeBits m q + signBit negative)) := by
  obtain ⟨hlow, hhigh⟩ := near_between_powers hm hr h
  have hten : (0 : ℚ) < (10 : ℚ) ^ e := by positivity
  have hn : 0 < n := by
    rcases Nat.eq_zero_or_pos n with rfl | hn
    · rw [Nat.cast_zero, zero_mul] at hlow
      exact absurd hlow (not_lt.2 (by positivity))
    · exact hn
  obtain ⟨h1, h2⟩ := pow_length_digits n hn
  have hpos := List.length_pos_of_ne_nil (digits_ne_nil n)
  -- The power of ten above the number, from the length of the digits.
  have htop : ¬ (n = 0 ∨ e + (digits n).length < -330) := by
    have hlt : (10 : ℚ) ^ (-330 : Int) < (10 : ℚ) ^ (e + (digits n).length) := by
      refine hlow.trans ?_
      rw [add_comm, zpow_add₀ (by norm_num), mul_lt_mul_iff_left₀ hten, zpow_natCast]
      exact_mod_cast (by rwa [Nat.sub_add_cancel hpos] at h2 : n < 10 ^ (digits n).length)
    have := (zpow_lt_zpow_iff_right₀ (by norm_num)).1 hlt
    omega
  have hbottom : ¬ 310 < e + (digits n).length := by
    have hlt : (10 : ℚ) ^ (e + ((digits n).length - 1 : Nat)) < (10 : ℚ) ^ (310 : Int) := by
      refine lt_of_le_of_lt ?_ hhigh
      rw [add_comm, zpow_add₀ (by norm_num), mul_le_mul_iff_left₀ hten, zpow_natCast]
      exact_mod_cast h1
    have := (zpow_lt_zpow_iff_right₀ (by norm_num)).1 hlt
    omega
  have hvalue : ((n * Nat.pow 10 e.toNat : Nat) : ℚ) / (Nat.pow 10 (-e).toNat : Nat) =
      n * (10 : ℚ) ^ e := by
    rw [Nat.cast_mul, mul_div_assoc, pow_toNat_div (by decide : (10 : Nat) ≠ 0)]
    rfl
  simp only [ofDecimal]
  rw [if_neg htop, if_neg hbottom, nearest,
    nearestBits_eq_of_near (pow_toNat_pos (by decide : (10 : Nat) ≠ 0) (-e)) hm hr (hvalue ▸ h)]

theorem readUnsigned?_of_spells (negative : Bool) {cs rest : List Char} {v : ℚ}
    (h : Spells cs v) (hrest : Closes rest) :
    ∃ n e, readUnsigned? negative (cs ++ rest) = some (.double (ofDecimal negative n e), rest) ∧
      (n : ℚ) * (10 : ℚ) ^ e = v := by
  obtain ⟨whole, places, exponent, rfl, hwhole, hplaces, hdouble, hvalue⟩ := h
  refine ⟨_, _, ?_, hvalue⟩
  rw [readUnsigned?_numeral negative hwhole hplaces hrest, hdouble, if_neg (by decide)]

/-! ### Atoms -/

theorem takeWord?_of_ne {word : String} {w c : Char} {ws cs : List Char}
    (hword : word.toList = w :: ws) (hne : c ≠ w) : takeWord? word (c :: cs) = none := by
  have hprefix : word.toList.isPrefixOf (c :: cs) = false := by
    rw [hword, List.isPrefixOf_cons_cons, beq_eq_false_iff_ne.2 hne.symm, Bool.false_and]
  rw [takeWord?, hprefix, if_neg (by decide)]

theorem digitChar_ne {d : Nat} {c : Char} (hd : d < 10) (hc : asciiDigit? c = none) :
    d.digitChar ≠ c := by
  intro h
  have hd' := asciiDigit?_digitChar hd
  rw [h, hc] at hd'
  exact absurd hd' (by simp)

/-- What begins with a digit is a number. -/
theorem readAtom?_of_digit {d : Nat} (hd : d < 10) (cs : List Char) :
    readAtom? (d.digitChar :: cs) = readUnsigned? false (d.digitChar :: cs) := by
  have hminus : d.digitChar ≠ '-' := digitChar_ne hd (by decide)
  rw [readAtom?, takeWord?_of_ne rfl (digitChar_ne hd (by decide)),
    takeWord?_of_ne rfl (digitChar_ne hd (by decide)),
    takeWord?_of_ne rfl (digitChar_ne hd (by decide)),
    takeWord?_of_ne rfl (digitChar_ne hd (by decide)),
    takeWord?_of_ne rfl (digitChar_ne hd (by decide)), takeWord?_of_ne rfl hminus]
  exact fun rest h ↦ hminus (List.cons.inj h).1

/-- What begins with a minus sign and a digit is a negative number. -/
theorem readAtom?_of_minus {d : Nat} (hd : d < 10) (cs : List Char) :
    readAtom? ('-' :: d.digitChar :: cs) = readUnsigned? true (d.digitChar :: cs) := by
  have hinfinity : takeWord? "-Infinity" ('-' :: d.digitChar :: cs) = none := by
    have hletter : d.digitChar ≠ 'I' := digitChar_ne hd (by decide)
    have hprefix : "-Infinity".toList.isPrefixOf ('-' :: d.digitChar :: cs) = false := by
      show ('-' :: 'I' :: "nfinity".toList).isPrefixOf ('-' :: d.digitChar :: cs) = false
      rw [List.isPrefixOf_cons_cons, List.isPrefixOf_cons_cons, beq_eq_false_iff_ne.2 hletter.symm,
        Bool.false_and, Bool.and_false]
    rw [takeWord?, hprefix, if_neg (by decide)]
  rw [readAtom?, takeWord?_of_ne rfl (by decide), takeWord?_of_ne rfl (by decide),
    takeWord?_of_ne rfl (by decide), takeWord?_of_ne rfl (by decide),
    takeWord?_of_ne rfl (by decide), hinfinity]

/-- A number with its sign in front. -/
theorem readAtom?_signed {cs : List Char} (negative : Bool)
    (hdigit : ∃ d < 10, cs.head? = some (Nat.digitChar d)) (rest : List Char) :
    readAtom? ((if negative then ['-'] else []) ++ cs ++ rest) =
      readUnsigned? negative (cs ++ rest) := by
  obtain ⟨d, hd, hhead⟩ := hdigit
  obtain ⟨cs', rfl⟩ : ∃ cs', cs = d.digitChar :: cs' := by
    cases cs with
    | nil => exact absurd hhead (by simp)
    | cons c cs' => exact ⟨cs', by rw [Option.some.inj hhead]⟩
  cases negative with
  | true => exact readAtom?_of_minus hd _
  | false => exact readAtom?_of_digit hd _

theorem numeral_head {whole : List Nat} (places : List Nat) (exponent : Option Int)
    (h : Whole whole) :
    ∃ d < 10, (numeral whole places exponent).head? = some (Nat.digitChar d) := by
  obtain ⟨d, ds, rfl⟩ := List.exists_cons_of_ne_nil h.ne_nil
  exact ⟨d, h.digit d (List.mem_cons_self ..), rfl⟩

theorem writeInt_eq_numeral (n : Int) :
    writeInt n = (if n < 0 then ['-'] else []) ++ numeral (digits n.natAbs) [] none := by
  cases n with
  | ofNat n => simp [writeInt, writeNat, numeral, writeDigits]
  | negSucc n => simp [writeInt, writeNat, numeral, writeDigits, Int.negSucc_lt_zero]

/-- **A whole number is read back**, if it has no more digits than can be read. -/
theorem readAtom?_writeInt {n : Int} (hn : (digits n.natAbs).length ≤ maxDigits)
    {rest : List Char} (hrest : Closes rest) :
    readAtom? (writeInt n ++ rest) = some (.int n, rest) := by
  have hread := readAtom?_signed (decide (n < 0))
    (numeral_head [] none (Whole.digits n.natAbs)) rest
  simp only [decide_eq_true_iff] at hread
  rw [writeInt_eq_numeral, hread, readUnsigned?_numeral _ (Whole.digits _) (by simp) hrest,
    if_pos (by rfl), if_neg (by omega), ofDigits_digits]
  congr 3
  simp only [decide_eq_true_iff]
  split <;> omega

/-- The sign and the digits of a finite double. -/
theorem readAtom?_of_near {negative : Bool} {m : Nat} {q : Int} (hm : 0 < m)
    (hr : Representable m q) {cs : List Char} {v : ℚ} (hcs : Spells cs v) (hv : Near m q v)
    {rest : List Char} (hrest : Closes rest) :
    readAtom? ((if negative then ['-'] else []) ++ cs ++ rest) =
      some (.double (Float.ofBits (UInt64.ofNat (magnitudeBits m q + signBit negative))),
        rest) := by
  obtain ⟨n, e, hread, hvalue⟩ := readUnsigned?_of_spells negative hcs hrest
  have hhead : ∃ d < 10, cs.head? = some (Nat.digitChar d) := by
    obtain ⟨whole, places, exponent, rfl, hwhole, -⟩ := hcs
    exact numeral_head places exponent hwhole
  rw [readAtom?_signed negative hhead, hread, ofDecimal_of_near negative hm hr (hvalue ▸ hv)]

theorem write_zero : (Scientific.mk 0 0).write doubleLayout = numeral [0] [0] none := by
  simp only [Scientific.write, writeNat, digits_of_lt (by decide : 0 < 10)]
  rfl

/-- Zero is written with one place, and read back with its sign. -/
theorem readAtom?_zero (negative : Bool) {rest : List Char} (hrest : Closes rest) :
    readAtom? ((if negative then ['-'] else []) ++ (Scientific.mk 0 0).write doubleLayout ++ rest) =
      some (.double (Float.ofBits (UInt64.ofNat (signBit negative))), rest) := by
  have hwhole : Whole [0] := ⟨by simp, by simp, by simp⟩
  have hdecimal : ofDecimal negative (ofDigits ([0] ++ [0])) ((none : Option Int).getD 0 - 1) =
      nearest negative 0 1 := by
    unfold ofDecimal
    exact if_pos (.inl rfl)
  rw [write_zero, readAtom?_signed negative (numeral_head [0] none hwhole),
    readUnsigned?_numeral negative hwhole (by simp) hrest, if_neg (by decide),
    List.length_singleton, Nat.cast_one, hdecimal, nearest, nearestBits, if_pos rfl, Nat.zero_add]

/-- **A double is read back.** -/
theorem readAtom?_writeDouble (x : Float) {rest : List Char} (hrest : Closes rest) :
    readAtom? (writeDouble x ++ rest) = some (.double x, rest) := by
  rw [writeDouble, writeDoubleWith]
  split
  · rename_i h
    rw [decode_eq_notANumber h]
    rfl
  · rename_i negative h
    rw [decode_eq_infinite h]
    cases negative <;> rfl
  · rename_i negative m q h
    obtain ⟨hr, hx⟩ := decode_eq_finite h
    by_cases hm : m = 0
    · obtain rfl : q = -1074 := hr.normal (by omega)
      subst hm
      have hbits : magnitudeBits 0 (-1074) + signBit negative = signBit negative :=
        Nat.zero_add _
      rw [if_pos rfl, readAtom?_zero negative hrest, hx, hbits]
    · rw [if_neg hm, hx]
      obtain ⟨hsignificand, hnear⟩ := near_value_shortest (Nat.pos_of_ne_zero hm) hr
      exact readAtom?_of_near (Nat.pos_of_ne_zero hm) hr (spells_write hsignificand) hnear hrest

end Organizer.Json
