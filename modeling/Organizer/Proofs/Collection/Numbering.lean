import Mathlib.Data.List.Basic
import Organizer.Collection.Basic
import Organizer.Proofs.Markup.Showing

/-!
# Numbered lines with markup

A listing is made of numbered lines. A number with what goes around it is shown as it is, and so it
keeps the texts of two lines apart: a line break in front of it begins nothing and closes nothing.
-/

namespace Organizer

open Number Text

namespace Collection

/-- Texts, each with its number in front. -/
def numberedTexts : ℕ → List String → List String
  | _, [] => []
  | n, s :: ss => (showNat n ++ ". " ++ s) :: numberedTexts (n + 1) ss

theorem numbered_eq_ok {line : Json → Except Failure String} {text : Json → String}
    {records : List Json} (h : ∀ r ∈ records, line r = .ok (text r)) (n : ℕ) :
    numbered line n records = .ok (numberedTexts n (records.map text)) := by
  induction records generalizing n with
  | nil => rfl
  | cons r rs ih =>
    obtain ⟨hr, hrs⟩ := List.forall_mem_cons.1 h
    rw [numbered, hr, List.map_cons, numberedTexts]
    show (numbered line (n + 1) rs >>= fun lines ↦ _) = _
    rw [ih hrs]
    rfl

/-- A listing with records has a numbered line for each of them. -/
theorem list_eq_bind {c : Collection} {d : Desk} {records : List Json}
    (hrecords : c.records d = .ok records) (hne : records ≠ []) :
    c.list d = numbered c.line 1 records >>= fun lines ↦
      .ok [⟨joinLines lines, c.category, c.markup, none, records.any c.tears⟩] := by
  rw [list, hrecords]
  cases records with
  | nil => exact absurd rfl hne
  | cons r rs => rfl

theorem exists_numbered_eq_ok {line : Json → Except Failure String} {records : List Json}
    (h : ∀ r ∈ records, ∃ s, line r = .ok s) (n : ℕ) :
    ∃ lines, numbered line n records = .ok lines := by
  have htext : ∀ r ∈ records, line r = .ok ((line r).toOption.getD "") := by
    intro r hr
    obtain ⟨s, hs⟩ := h r hr
    rw [hs]
    rfl
  exact ⟨_, numbered_eq_ok htext n⟩

/-- A listing depends on the records alone, and there is one if each record has a line. -/
theorem exists_list_eq_ok {c : Collection} {records : List Json}
    (h : ∀ r ∈ records, ∃ s, c.line r = .ok s) :
    ∃ listing, ∀ d : Desk, c.records d = .ok records → c.list d = .ok listing := by
  obtain ⟨lines, hlines⟩ := exists_numbered_eq_ok h 1
  cases records with
  | nil =>
    refine ⟨Response.reply ("No " ++ c.key ++ " found."), fun d hrecords ↦ ?_⟩
    rw [list, hrecords]
    rfl
  | cons r rs =>
    refine ⟨[⟨joinLines lines, c.category, c.markup, none, (r :: rs).any c.tears⟩],
      fun d hrecords ↦ ?_⟩
    rw [list_eq_bind hrecords (List.cons_ne_nil r rs), hlines]
    rfl

/-- Texts with a separator, as what follows the first of them. -/
theorem toList_intercalate_cons (separator : String) (s : String) (ss : List String) :
    (separator.intercalate (s :: ss)).toList =
      s.toList ++ ss.flatMap fun s ↦ separator.toList ++ s.toList := by
  induction ss generalizing s with
  | nil => simp
  | cons s' ss ih =>
    rw [String.intercalate_cons_cons, String.toList_append, String.toList_append, ih,
      List.flatMap_cons, List.append_assoc, List.append_assoc]

/-- The number in front of a text. -/
def number (n : ℕ) : List Char := writeNat n ++ ['.', ' ']

theorem toList_number (n : ℕ) (s : String) :
    (showNat n ++ ". " ++ s).toList = number n ++ s.toList := by
  simp [number, showNat]

theorem isBracket_of_mem_number {n : ℕ} {c : Char} (h : c ∈ number n) :
    Markup.isBracket c = false := by
  rcases List.mem_append.1 h with h | h
  · exact forall_mem_writeNat (P := (Markup.isBracket · = false)) (by decide) n c h
  · rcases List.mem_pair.1 h with rfl | rfl <;> rfl

theorem find?_number_append (n : ℕ) (cs : List Char) :
    (number n ++ cs).find? Markup.isBracket = cs.find? Markup.isBracket := by
  have hnone : (number n).find? Markup.isBracket = none :=
    List.find?_eq_none.2 fun c hc ↦ by simp [isBracket_of_mem_number hc]
  rw [List.find?_append, hnone, Option.none_or]

variable {gap : List Char}

theorem noOpening_number (hgap : '[' ∉ gap) (n : ℕ) : '[' ∉ gap ++ number n := by
  intro hmem
  rcases List.mem_append.1 hmem with hmem | hmem
  · exact hgap hmem
  · exact absurd (isBracket_of_mem_number hmem) (by decide)

theorem getLast?_number (gap : List Char) (n : ℕ) :
    (gap ++ number n).getLast? ≠ some '\\' := by
  simp [number]

/-- A number consists of characters, with a gap in front of it. -/
theorem scan_number (hgap : '[' ∉ gap) (n : ℕ) (rest : List Char) :
    Markup.scan (gap ++ number n ++ rest) =
      (gap ++ number n).map .char ++ Markup.scan rest :=
  Markup.scan_literal_append (noOpening_number hgap n) (getLast?_number gap n) rest

/-- A number is shown as it is, with a gap in front of it. -/
theorem plainFrom?_number (hgap : '[' ∉ gap) (n : ℕ) (openTags : List Markup.OpenTag)
    (rest : List Char) :
    Markup.plainFrom? openTags (Markup.scan (gap ++ number n ++ rest)) =
      (Markup.plainFrom? openTags (Markup.scan rest)).map (gap ++ number n ++ ·) :=
  Markup.plainFrom?_literal (noOpening_number hgap n) (getLast?_number gap n) openTags rest

end Collection

end Organizer
