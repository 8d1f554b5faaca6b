/-!
# Blank characters

Which characters count as blank, and the operations that cut blanks off the ends of a text.

`isBlank` is the class that every command uses: the Unicode white space together with the four
information separators U+001C to U+001F. The zero-width space, the byte order mark and the Mongolian
vowel separator do not belong to it.
-/

namespace Organizer.Text

/-- Is the character blank? -/
def isBlank (c : Char) : Bool :=
  let n := c.toNat
  (0x09 ≤ n && n ≤ 0x0D) || (0x1C ≤ n && n ≤ 0x20) || n == 0x85 || n == 0xA0 || n == 0x1680 ||
    (0x2000 ≤ n && n ≤ 0x200A) || n == 0x2028 || n == 0x2029 || n == 0x202F || n == 0x205F ||
    n == 0x3000

/-- Cuts the blanks off the front. -/
def dropBlanks (cs : List Char) : List Char := cs.dropWhile isBlank

/-- Cuts the blanks off the back. -/
def dropBlanksEnd (cs : List Char) : List Char := (cs.reverse.dropWhile isBlank).reverse

/-- Cuts the blanks off both ends. -/
def trim (cs : List Char) : List Char := dropBlanksEnd (dropBlanks cs)

/-- The text without the blanks at its two ends. -/
def strip (s : String) : String := String.ofList (trim s.toList)

/-- Does the text hold nothing but blanks? The empty text does. -/
def allBlank (s : String) : Bool := s.toList.all isBlank

/-! ### Small facts -/

@[simp] theorem dropBlanks_nil : dropBlanks [] = [] := rfl

@[simp] theorem trim_nil : trim [] = [] := rfl

theorem dropBlanks_eq_nil_iff (cs : List Char) : dropBlanks cs = [] ↔ ∀ c ∈ cs, isBlank c := by
  induction cs with
  | nil => simp
  | cons c cs ih =>
    by_cases h : isBlank c
    · simp only [dropBlanks, List.dropWhile_cons, h, if_true, List.forall_mem_cons, true_and]
      exact ih
    · simp [dropBlanks, h]

theorem dropBlanksEnd_eq_nil_iff (cs : List Char) :
    dropBlanksEnd cs = [] ↔ ∀ c ∈ cs, isBlank c := by
  rw [dropBlanksEnd, List.reverse_eq_nil_iff, ← dropBlanks, dropBlanks_eq_nil_iff]
  simp only [List.mem_reverse]

theorem head_dropBlanks_not_blank {cs : List Char} {c : Char} {r : List Char}
    (h : dropBlanks cs = c :: r) : isBlank c = false := by
  induction cs with
  | nil => simp at h
  | cons d cs ih =>
    by_cases hd : isBlank d
    · exact ih (by simpa [dropBlanks, List.dropWhile_cons, hd] using h)
    · have : d = c := by
        simp only [dropBlanks, List.dropWhile_cons, hd] at h
        exact (List.cons.inj h).1
      subst this
      simpa using hd

/-- A text is blank exactly if nothing is left of it once its ends are cut. -/
theorem trim_eq_nil_iff (cs : List Char) : trim cs = [] ↔ ∀ c ∈ cs, isBlank c := by
  unfold trim
  constructor
  · intro h
    cases hd : dropBlanks cs with
    | nil => exact (dropBlanks_eq_nil_iff cs).mp hd
    | cons c r =>
      have hc := (dropBlanksEnd_eq_nil_iff _).mp h c (by simp [hd])
      simp [head_dropBlanks_not_blank hd] at hc
  · intro h
    simp [(dropBlanks_eq_nil_iff cs).mpr h, dropBlanksEnd]

end Organizer.Text
