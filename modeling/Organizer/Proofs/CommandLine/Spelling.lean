import Mathlib.Data.List.Forall2
import Organizer.CommandLine.Request
import Organizer.Proofs.CommandLine.Rendering
import Organizer.Proofs.CommandLine.Stripping

/-!
# Arguments with single blanks between them

Most lines are made in one way: each argument is typed as it is, or in double quotes, and a single
blank stands between two of them (`StandsFor`). Such a line comes through unharmed. It neither
begins nor ends with a blank, although an argument may do both, and so nothing is cut off
(`strip_joined`); and its words are the arguments (`words_joined`).
-/

namespace Organizer.CommandLine

open Text

variable {spelling argument : String} {spellings arguments : List String}

/-! ### Single arguments -/

/-- A text in quotes. -/
def quoted (text : String) : String := "\"" ++ text ++ "\""

/-- How an argument is typed. -/
inductive StandsFor : String → String → Prop
  /-- As it is, if it holds neither a blank nor a quote. -/
  | bare {argument : String} (hne : argument.toList ≠ [])
      (hbare : ∀ c ∈ argument.toList, isBare c = true) : StandsFor argument argument
  | quoted {argument : String} (hne : argument.toList ≠ []) (hquote : '"' ∉ argument.toList) :
      StandsFor (quoted argument) argument

theorem toList_quoted (text : String) : (quoted text).toList = '"' :: (text.toList ++ ['"']) := by
  simp [quoted]

namespace StandsFor

/-- An argument is the first word, if what follows ends it. -/
theorem splitWords_append (h : StandsFor spelling argument) {rest : List Char}
    (hrest : EndsWord rest) :
    splitWords (spelling.toList ++ rest) = argument.toList :: splitWords rest := by
  cases h with
  | bare hne hbare => exact splitWords_bare hne hbare hrest
  | quoted hne hquote =>
    rw [toList_quoted, List.cons_append, List.append_assoc]
    exact splitWords_quoted hne hquote rest

theorem ne_nil (h : StandsFor spelling argument) : spelling.toList ≠ [] := by
  cases h with
  | bare hne _ => exact hne
  | quoted _ _ => simp [toList_quoted]

/-- The quotes keep the blanks of an argument inside. -/
theorem isTrimmed (h : StandsFor spelling argument) : IsTrimmed spelling.toList := by
  cases h with
  | bare hne hbare =>
    exact ⟨fun c hc ↦ (isBare_iff.1 (hbare c (List.mem_of_mem_head? hc))).2,
      fun c hc ↦ (isBare_iff.1 (hbare c (List.mem_of_mem_getLast? hc))).2⟩
  | quoted _ _ =>
    have hblank : isBlank '"' = false := by decide
    rw [toList_quoted]
    refine ⟨by simpa using hblank, ?_⟩
    rw [← List.cons_append, List.getLast?_concat]
    simpa using hblank

end StandsFor

/-! ### Lines -/

theorem joined_singleton (text : String) : Request.joined [text] = text := by
  simp [Request.joined]

theorem toList_joined_cons_cons (first second : String) (rest : List String) :
    (Request.joined (first :: second :: rest)).toList =
      first.toList ++ [' '] ++ (Request.joined (second :: rest)).toList := by
  simp [Request.joined, String.intercalate_cons_cons]

theorem splitWords_joined (h : List.Forall₂ StandsFor spellings arguments) :
    splitWords (Request.joined spellings).toList = arguments.map String.toList := by
  induction h with
  | nil => decide +kernel
  | cons hfirst hrest ih =>
    cases hrest with
    | nil =>
      have hnil : splitWords [] = [] := by rw [splitWords]
      have hsplit := hfirst.splitWords_append endsWord_nil
      rw [List.append_nil, hnil] at hsplit
      rw [joined_singleton, hsplit]
      rfl
    | cons hsecond hrest =>
      -- the blank ends the first argument, and is then skipped
      have hblank : isBlank ' ' = true := by decide
      rw [toList_joined_cons_cons, List.append_assoc, List.singleton_append,
        hfirst.splitWords_append (endsWord_blank hblank _), splitWords_blank hblank, ih]
      rfl

/-- **The words of such a line are its arguments.** -/
theorem words_joined (h : List.Forall₂ StandsFor spellings arguments) :
    words (Request.joined spellings) = arguments := by
  rw [words, splitWords_joined h, List.map_map]
  simp

theorem isTrimmed_joined (h : List.Forall₂ StandsFor spellings arguments) (hne : spellings ≠ []) :
    IsTrimmed (Request.joined spellings).toList ∧ (Request.joined spellings).toList ≠ [] := by
  induction h with
  | nil => exact absurd rfl hne
  | cons hfirst hrest ih =>
    cases hrest with
    | nil =>
      rw [joined_singleton]
      exact ⟨hfirst.isTrimmed, hfirst.ne_nil⟩
    | cons hsecond hrest =>
      obtain ⟨htrimmed, hrest⟩ := ih (List.cons_ne_nil _ _)
      rw [toList_joined_cons_cons]
      exact ⟨hfirst.isTrimmed.append htrimmed hfirst.ne_nil hrest _, by simp⟩

/-- **Nothing of such a line is cut off.** -/
theorem strip_joined (h : List.Forall₂ StandsFor spellings arguments) (hne : spellings ≠ []) :
    strip (Request.joined spellings) = Request.joined spellings :=
  strip_eq_self (isTrimmed_joined h hne).1

theorem isEmpty_joined (h : List.Forall₂ StandsFor spellings arguments) (hne : spellings ≠ []) :
    (Request.joined spellings).isEmpty = false := by
  simpa using (isTrimmed_joined h hne).2

end Organizer.CommandLine
