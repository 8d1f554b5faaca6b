import Mathlib.Data.Nat.Size
import Organizer.Proofs.Number.Shortest

/-!
# How long numbers are

Bounds on the bits and on the decimal digits of whole numbers, and of those whole numbers that a
double can be equal to: none of these has more than 1024 bits (`size_of_toInt?`).

The text of a double never looks like that of a whole number: there is a point, an exponent or a
word in it (`showDouble_ne_showInt`). So the text of a whole number can only be that of its value.
-/

namespace Organizer

namespace Number

open Text

/-! ### Bits -/

/-- A product has no more bits than its factors together. -/
theorem size_mul_le (m n : ℕ) : (m * n).size ≤ m.size + n.size := by
  rw [Nat.size_le, pow_add]
  exact Nat.mul_lt_mul'' m.lt_size_self n.lt_size_self

/-- A sum has at most one bit more than the longer part. -/
theorem size_add_le {m n k : ℕ} (hm : m.size ≤ k) (hn : n.size ≤ k) : (m + n).size ≤ k + 1 := by
  rw [Nat.size_le] at hm hn ⊢
  rw [pow_succ]
  omega

theorem size_mul_pow_le {m a e b : ℕ} (hm : m < 2 ^ a) (he : e ≤ b) :
    (m * 2 ^ e).size ≤ a + b := by
  rw [Nat.size_le, pow_add]
  exact Nat.mul_lt_mul_of_lt_of_le hm (Nat.pow_le_pow_right Nat.two_pos he) (Nat.two_pow_pos b)

/-! ### Digits -/

/-- A number below a power of ten has no more digits than that power has zeros. -/
theorem length_digits_le {n k : ℕ} (hk : 0 < k) (h : n < 10 ^ k) : (digits n).length ≤ k := by
  rcases Nat.eq_zero_or_pos n with rfl | hn
  · rw [digits_of_lt (by decide)]
    exact hk
  · obtain ⟨hlow, -⟩ := pow_length_digits n hn
    have hlt := (Nat.pow_lt_pow_iff_right (by decide)).1 (hlow.trans_lt h)
    omega

/-- How many digits a number can have is read off a power of ten above a power of two. -/
theorem length_digits_le_of_size {n b k : ℕ} (hk : 0 < k) (hpow : 2 ^ b ≤ 10 ^ k)
    (h : n.size ≤ b) : (digits n).length ≤ k :=
  length_digits_le hk ((Nat.size_le.1 h).trans_le hpow)

end Number

namespace Double

open Number

/-- **A double that is a whole number** has no more bits than the largest double. -/
theorem size_of_toInt? {x : Float} {n : ℤ} (h : toInt? x = some n) : n.natAbs.size ≤ 53 + 971 := by
  unfold toInt? at h
  split at h
  · rename_i negative m q hdecode
    obtain ⟨hr, -⟩ := decode_eq_finite hdecode
    have hle : q.toNat ≤ 971 := by have := hr.exponent_le; omega
    have hquotient : (m * scaleUp q / scaleDown q).size ≤ 53 + 971 :=
      (Nat.size_le_size (Nat.div_le_self _ _)).trans (size_mul_pow_le hr.mantissa_lt hle)
    split at h
    · rw [← Option.some.inj h]
      cases negative with
      | false => rwa [if_neg Bool.false_ne_true, Int.natAbs_natCast]
      | true => rwa [if_pos rfl, Int.natAbs_neg, Int.natAbs_natCast]
    · cases h
  · cases h

end Double

namespace Number

open Double Text

/-! ### Texts -/

/-- Is the character one that tells the text of a double from that of a whole number? -/
def marksDouble (c : Char) : Bool := c == '.' || c == 'e' || c == 'n'

theorem exists_marksDouble_write (x : Scientific) :
    ∃ c ∈ x.write fullLayout, marksDouble c = true := by
  unfold Scientific.write
  dsimp only
  split
  · split
    · exact ⟨'.', by simp, by decide⟩
    · split
      · exact ⟨'.', by simp [fullLayout], by decide⟩
      · exact ⟨'.', by simp, by decide⟩
  · exact ⟨'e', by simp, by decide⟩

theorem exists_marksDouble_showDouble (x : Float) :
    ∃ c ∈ (showDouble x).toList, marksDouble c = true := by
  rw [showDouble, String.toList_ofList, writeDoubleWith]
  split
  · exact ⟨'n', by decide, by decide⟩
  · exact ⟨'n', List.mem_append_right _ (by decide), by decide⟩
  · rename_i m q _
    by_cases hm : m = 0
    · obtain ⟨c, hc, h⟩ := exists_marksDouble_write ⟨0, 0⟩
      exact ⟨c, List.mem_append_right _ (by rwa [if_pos hm]), h⟩
    · obtain ⟨c, hc, h⟩ := exists_marksDouble_write (shortest m q)
      exact ⟨c, List.mem_append_right _ (by rwa [if_neg hm]), h⟩

theorem not_marksDouble_writeInt (n : ℤ) : ∀ c ∈ writeInt n, marksDouble c = false :=
  forall_mem_writeInt (by decide) (by decide) n

/-- **The text of a double is not that of a whole number.** -/
theorem showDouble_ne_showInt (x : Float) (n : ℤ) : showDouble x ≠ showInt n := by
  intro heq
  obtain ⟨c, hc, hmark⟩ := exists_marksDouble_showDouble x
  rw [heq, showInt, String.toList_ofList] at hc
  rw [not_marksDouble_writeInt n c hc] at hmark
  cases hmark

theorem filterMap_map_digitChar {ds : List ℕ} (h : ∀ d ∈ ds, d < 10) :
    (ds.map Nat.digitChar).filterMap asciiDigit? = ds := by
  induction ds with
  | nil => rfl
  | cons d ds ih =>
    obtain ⟨hd, hds⟩ := List.forall_mem_cons.1 h
    rw [List.map_cons, List.filterMap_cons_some (asciiDigit?_digitChar hd), ih hds]

/-- The digits of a number can be picked out of its text. -/
theorem filterMap_writeInt (n : ℤ) : (writeInt n).filterMap asciiDigit? = digits n.natAbs := by
  have hnat (m : ℕ) : (writeNat m).filterMap asciiDigit? = digits m :=
    filterMap_map_digitChar fun _ ↦ lt_ten_of_mem_digits
  cases n with
  | ofNat m => exact hnat m
  | negSucc m => exact hnat (m + 1)

end Number

end Organizer
