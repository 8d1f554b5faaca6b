import Mathlib.Data.List.DropRight
import Organizer.Text.Blank

/-!
# Lines without blanks at their ends

Whoever enters a line may leave blanks at its ends; they are cut off before the line is looked at.
A line that neither begins nor ends with a blank is left as it is (`strip_eq_self`), and so it makes
no difference that lines are stripped more than once on their way (`strip_strip`).
-/

namespace Organizer.Text

variable {cs : List Char}

/-- The text neither begins nor ends with a blank. -/
structure IsTrimmed (cs : List Char) : Prop where
  first : ∀ c ∈ cs.head?, isBlank c = false
  last : ∀ c ∈ cs.getLast?, isBlank c = false

theorem dropBlanks_eq_self (h : ∀ c ∈ cs.head?, isBlank c = false) : dropBlanks cs = cs := by
  cases cs with
  | nil => rfl
  | cons c cs => simp [dropBlanks, h c rfl]

theorem dropBlanksEnd_eq_self (h : ∀ c ∈ cs.getLast?, isBlank c = false) :
    dropBlanksEnd cs = cs := by
  have hreverse : dropBlanks cs.reverse = cs.reverse :=
    dropBlanks_eq_self (by rwa [List.head?_reverse])
  rw [dropBlanksEnd, ← dropBlanks, hreverse, List.reverse_reverse]

/-- Two such texts with anything in between are one. -/
theorem IsTrimmed.append {xs ys : List Char} (hxs : IsTrimmed xs) (hys : IsTrimmed ys)
    (hxs' : xs ≠ []) (hys' : ys ≠ []) (gap : List Char) : IsTrimmed (xs ++ gap ++ ys) where
  first := by
    rw [List.append_assoc, List.head?_append_of_ne_nil _ hxs']
    exact hxs.first
  last := by
    rw [List.getLast?_append_of_ne_nil _ hys']
    exact hys.last

theorem IsTrimmed.trim (h : IsTrimmed cs) : trim cs = cs := by
  rw [Text.trim, dropBlanks_eq_self h.first, dropBlanksEnd_eq_self h.last]

theorem head?_dropBlanks (cs : List Char) : ∀ c ∈ (dropBlanks cs).head?, isBlank c = false := by
  intro c hc
  obtain ⟨rest, hrest⟩ := List.head?_eq_some_iff.1 hc
  exact head_dropBlanks_not_blank hrest

theorem getLast?_dropBlanksEnd (cs : List Char) :
    ∀ c ∈ (dropBlanksEnd cs).getLast?, isBlank c = false := by
  rw [dropBlanksEnd, List.getLast?_reverse]
  exact head?_dropBlanks _

theorem isTrimmed_trim (cs : List Char) : IsTrimmed (trim cs) where
  first := by
    intro c hc
    obtain ⟨rest, hrest⟩ := List.head?_eq_some_iff.1 hc
    -- what is cut off at the back has not been the first character
    obtain ⟨back, hback⟩ : trim cs <+: dropBlanks cs := List.rdropWhile_prefix isBlank _
    exact head_dropBlanks_not_blank (r := rest ++ back) (by rw [← hback, hrest, List.cons_append])
  last := getLast?_dropBlanksEnd _

theorem strip_eq_self {s : String} (h : IsTrimmed s.toList) : strip s = s := by
  rw [strip, h.trim, String.ofList_toList]

@[simp]
theorem strip_strip (s : String) : strip (strip s) = strip s :=
  strip_eq_self (by rw [strip, String.toList_ofList]; exact isTrimmed_trim _)

end Organizer.Text
