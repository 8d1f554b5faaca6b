import Mathlib.Data.List.Chain
import Mathlib.Data.List.TakeWhile
import Mathlib.Order.Basic
import Organizer.CommandLine.Words

/-!
# Arguments on a line

Any list of texts can be handed to a command as its arguments, as long as none of them is empty or
holds a double quote: each is written in quotes, or as it is if it holds no blank. This module shows
that the words of a line are exactly the arguments that were written on it, whatever the blanks
between them, and says what becomes of one more quote that is never closed.

`Written` is one argument with the blanks in front of it and `Rendering` a whole line; both carry
the proofs that they are well-formed. The line is taken apart from the left. A quoted argument ends
at its own closing quote (`splitWords_quoted`), and a bare one where the next character cannot
belong to it (`splitWords_bare`): that is a blank, a quote or the end, which `Written.Follows`
guarantees for two bare arguments in a row.
-/

namespace Organizer.CommandLine

open Text

/-! ### Lines -/

/-- An argument as it stands on a line, with the blanks in front of it. -/
structure Written where
  gap : List Char
  argument : List Char
  isQuoted : Bool
  gap_blank : ∀ c ∈ gap, isBlank c = true
  argument_ne_nil : argument ≠ []
  quote_not_mem : '"' ∉ argument
  /-- Only in quotes can an argument hold a blank. -/
  not_blank_of_bare : isQuoted = false → ∀ c ∈ argument, isBlank c = false

namespace Written

/-- The argument in quotes, or as it is. -/
def spelling (w : Written) : List Char :=
  if w.isQuoted then '"' :: w.argument ++ ['"'] else w.argument

/-- Can the second argument follow the first? It needs no blank in between if one of them is in
quotes. -/
def Follows (v w : Written) : Prop := v.isQuoted = true ∨ w.isQuoted = true ∨ w.gap ≠ []

/-- The characters of arguments, one after the other. -/
def chars (ws : List Written) : List Char := ws.flatMap fun w ↦ w.gap ++ w.spelling

end Written

/-- A line of arguments. -/
structure Rendering where
  written : List Written
  chained : written.IsChain Written.Follows
  /-- The blanks after the last argument. -/
  trailing : List Char
  trailing_blank : ∀ c ∈ trailing, isBlank c = true
  /-- What follows one more quote, if there is one. -/
  tail : Option (List Char)
  quote_not_mem_tail : ∀ u ∈ tail, '"' ∉ u

/-- The longest pieces of a text without blanks. -/
def runs (cs : List Char) : List (List Char) := (cs.splitOnP isBlank).filter (· ≠ [])

/-- The words of a text behind a quote that is never closed: the quote belongs to the first word
that begins right behind it. -/
def tailWords (u : List Char) : List (List Char) :=
  match runs u with
  | [] => []
  | w :: ws => (if u.head?.any isBlank then w else '"' :: w) :: ws

namespace Rendering

variable (r : Rendering)

/-- The characters of the quote that is never closed, and of what follows it. -/
def tailChars : List Char := (r.tail.map ('"' :: ·)).getD []

/-- The line. -/
def text : String := String.ofList (Written.chars r.written ++ r.trailing ++ r.tailChars)

/-- The arguments that are written on the line. -/
def arguments : List String := r.written.map fun w ↦ String.ofList w.argument

/-- The words behind the quote that is never closed. -/
def furtherWords : List String := ((r.tail.map tailWords).getD []).map String.ofList

end Rendering

/-! ### Runs -/

@[simp] theorem runs_nil : runs [] = [] := rfl

/-- A text is divided at each of its blanks. -/
theorem runs_append_blank {c : Char} (hc : isBlank c = true) (x y : List Char) :
    runs (x ++ c :: y) = runs x ++ runs y := by
  rw [runs, List.splitOnP_append_cons x y hc, List.filter_append]
  rfl

theorem runs_of_not_blank {w : List Char} (hne : w ≠ []) (hw : ∀ c ∈ w, isBlank c = false) :
    runs w = [w] := by
  rw [runs, List.splitOnP_eq_singleton hw]
  simp [hne]

/-! ### Characters of words -/

theorem isBare_eq_false_iff {c : Char} : isBare c = false ↔ c = '"' ∨ isBlank c = true := by
  simp [isBare, or_iff_not_imp_left]

theorem isBare_iff {c : Char} : isBare c = true ↔ c ≠ '"' ∧ isBlank c = false := by
  simp [isBare]

/-- No character at the front of the text can continue a word without quotes. -/
def EndsWord (cs : List Char) : Prop := ∀ c ∈ cs.head?, isBare c = false

/-- A run of the characters of a class ends where a character is not of the class. -/
theorem takeWhile_append_of_head {p : Char → Bool} {w rest : List Char} (hw : ∀ c ∈ w, p c = true)
    (hrest : ∀ c ∈ rest.head?, p c = false) : (w ++ rest).takeWhile p = w := by
  rw [List.takeWhile_append_of_pos hw]
  cases rest with
  | nil => simp
  | cons c rest => simp [hrest c rfl]

/-- A text is the run at its front and what ends it. -/
theorem exists_run (cs : List Char) :
    ∃ w rest, cs = w ++ rest ∧ (∀ c ∈ w, isBare c = true) ∧ EndsWord rest := by
  refine ⟨cs.takeWhile isBare, cs.dropWhile isBare, List.takeWhile_append_dropWhile.symm,
    fun c hc ↦ List.mem_takeWhile_imp hc, fun c hc ↦ ?_⟩
  have hhead := List.head?_dropWhile_not isBare cs
  rw [Option.mem_def.1 hc] at hhead
  exact hhead

/-! ### The first word of a line -/

theorem splitWords_blank {c : Char} (hc : isBlank c = true) (cs : List Char) :
    splitWords (c :: cs) = splitWords cs := by
  have hne : c ≠ '"' := by
    rintro rfl
    exact absurd hc (by decide)
  rw [splitWords, if_neg hne, if_pos hc]

theorem splitWords_blanks {gap : List Char} (hgap : ∀ c ∈ gap, isBlank c = true)
    (cs : List Char) : splitWords (gap ++ cs) = splitWords cs := by
  induction gap with
  | nil => rfl
  | cons c gap ih =>
    obtain ⟨hc, hgap⟩ := List.forall_mem_cons.1 hgap
    rw [List.cons_append, splitWords_blank hc, ih hgap]

/-- What stands in quotes is one word, whatever follows it. -/
theorem splitWords_quoted {w : List Char} (hne : w ≠ []) (hquote : '"' ∉ w) (rest : List Char) :
    splitWords ('"' :: (w ++ '"' :: rest)) = w :: splitWords rest := by
  have hinside : (w ++ '"' :: rest).takeWhile (· != '"') = w :=
    takeWhile_append_of_head (fun c hc ↦ by simpa using ne_of_mem_of_not_mem hc hquote) (by simp)
  have hlength : w.length < (w ++ '"' :: rest).length := by simp
  have hdrop : (w ++ '"' :: rest).drop (w.length + 1) = rest := by simp [List.drop_append]
  rw [splitWords, if_pos rfl]
  simp only [hinside]
  rw [if_pos ⟨hne, hlength⟩, hdrop]

/-- Without quotes a word goes on until a character cannot belong to it. -/
theorem splitWords_bare {w rest : List Char} (hne : w ≠ []) (hw : ∀ c ∈ w, isBare c = true)
    (hrest : EndsWord rest) : splitWords (w ++ rest) = w :: splitWords rest := by
  obtain ⟨c, w, rfl⟩ := List.exists_cons_of_ne_nil hne
  obtain ⟨hc, hw⟩ := List.forall_mem_cons.1 hw
  obtain ⟨hquote, hblank⟩ := isBare_iff.1 hc
  have hrun : (w ++ rest).takeWhile isBare = w := takeWhile_append_of_head hw hrest
  rw [List.cons_append, splitWords, if_neg hquote, if_neg (by simp [hblank])]
  simp only [hrun]
  rw [List.drop_left]

/-- A quote without a partner sticks to the word right behind it. -/
theorem splitWords_unclosed {u : List Char} (hquote : '"' ∉ u) {w rest : List Char}
    (hu : u = w ++ rest) (hw : ∀ c ∈ w, isBare c = true) (hrest : EndsWord rest) :
    splitWords ('"' :: u) = if w = [] then splitWords rest else ('"' :: w) :: splitWords rest := by
  have hinside : u.takeWhile (· != '"') = u :=
    List.takeWhile_eq_self_iff.2 fun c hc ↦ by simpa using ne_of_mem_of_not_mem hc hquote
  have hrun : u.takeWhile isBare = w := hu ▸ takeWhile_append_of_head hw hrest
  rw [splitWords, if_pos rfl]
  simp only [hinside]
  rw [if_neg fun h ↦ absurd h.2 (Nat.lt_irrefl _), hrun]
  by_cases hnil : w = []
  · subst hnil
    rw [if_pos rfl, if_pos rfl, hu, List.nil_append]
  · rw [if_neg hnil, if_neg hnil, hu, List.drop_left]

/-! ### Texts without quotes -/

theorem endsWord_nil : EndsWord [] := fun _ hc ↦ absurd hc (Option.not_mem_none _)

theorem endsWord_quote (cs : List Char) : EndsWord ('"' :: cs) := by
  rintro c ⟨⟩
  rfl

theorem endsWord_blank {c : Char} (hc : isBlank c = true) (cs : List Char) :
    EndsWord (c :: cs) := by
  rintro d ⟨⟩
  exact isBare_eq_false_iff.2 (.inr hc)

/-- Without quotes the words of a text are its runs, if what follows ends the last of them. -/
theorem splitWords_append_of_quote_not_mem {u following : List Char} (h : '"' ∉ u)
    (hfollowing : EndsWord following) :
    splitWords (u ++ following) = runs u ++ splitWords following := by
  induction hn : u.length using Nat.strongRecOn generalizing u with
  | _ n ih =>
  obtain ⟨w, rest, rfl, hw, hrest⟩ := exists_run u
  have hblank : ∀ c ∈ w, isBlank c = false := fun c hc ↦ (isBare_iff.1 (hw c hc)).2
  cases rest with
  | nil =>
    rw [List.append_nil]
    rcases eq_or_ne w [] with rfl | hne
    · rfl
    · rw [splitWords_bare hne hw hfollowing, runs_of_not_blank hne hblank]
      rfl
  | cons c rest =>
    -- what ends the run is a blank, because there is no quote
    have hc : isBlank c = true :=
      (isBare_eq_false_iff.1 (hrest c rfl)).resolve_left fun hc ↦ h (by simp [hc])
    have hrec : splitWords (rest ++ following) = runs rest ++ splitWords following :=
      ih rest.length (by simp at hn; omega) (fun hmem ↦ h (by simp [hmem])) rfl
    rw [runs_append_blank hc, List.append_assoc, List.cons_append, List.append_assoc, ← hrec]
    rcases eq_or_ne w [] with rfl | hne
    · rw [List.nil_append, splitWords_blank hc, runs_nil, List.nil_append]
    · rw [splitWords_bare hne hw (endsWord_blank hc _), splitWords_blank hc,
        runs_of_not_blank hne hblank]
      rfl

/-- Without quotes the words of a text are its runs. -/
theorem splitWords_of_quote_not_mem {u : List Char} (h : '"' ∉ u) : splitWords u = runs u := by
  have hnil : splitWords [] = [] := by rw [splitWords]
  have hsplit := splitWords_append_of_quote_not_mem h endsWord_nil
  rwa [List.append_nil, hnil, List.append_nil] at hsplit

/-- A run at the front of a text without quotes is its first. -/
theorem runs_of_run {w rest : List Char} (hne : w ≠ []) (hw : ∀ c ∈ w, isBare c = true)
    (hrest : EndsWord rest) (hquote : '"' ∉ w ++ rest) : runs (w ++ rest) = w :: runs rest := by
  have hquote' : '"' ∉ rest := fun hmem ↦ hquote (List.mem_append_right w hmem)
  rw [← splitWords_of_quote_not_mem hquote, splitWords_bare hne hw hrest,
    splitWords_of_quote_not_mem hquote']

/-- The words behind a quote that is never closed. -/
theorem splitWords_tail {u : List Char} (h : '"' ∉ u) : splitWords ('"' :: u) = tailWords u := by
  obtain ⟨w, rest, rfl, hw, hrest⟩ := exists_run u
  have hquote : '"' ∉ rest := fun hmem ↦ h (List.mem_append_right w hmem)
  rw [splitWords_unclosed h rfl hw hrest, splitWords_of_quote_not_mem hquote, tailWords]
  rcases w with - | ⟨c, w⟩
  · rw [if_pos rfl, List.nil_append]
    -- the text does not begin with a word, so that the quote has nothing to stick to
    cases rest with
    | nil => rfl
    | cons d rest =>
      have hd : isBlank d = true :=
        (isBare_eq_false_iff.1 (hrest d rfl)).resolve_left fun hd ↦ hquote (by simp [hd])
      cases runs (d :: rest) with
      | nil => rfl
      | cons v vs => simp [hd]
  · have hc : isBlank c = false := (isBare_iff.1 (hw c List.mem_cons_self)).2
    rw [if_neg (List.cons_ne_nil c w), runs_of_run (List.cons_ne_nil c w) hw hrest h]
    simp [hc]

/-! ### Lines of arguments -/

namespace Written

variable {v w : Written} {ws : List Written}

@[simp] theorem chars_nil : chars [] = [] := rfl

@[simp] theorem chars_cons (w : Written) (ws : List Written) :
    chars (w :: ws) = w.gap ++ (w.spelling ++ chars ws) := by
  simp [chars]

/-- What may follow an argument ends it. -/
theorem Follows.endsWord (h : Follows v w) (hv : v.isQuoted = false) (cs : List Char) :
    EndsWord (w.gap ++ (w.spelling ++ cs)) := by
  rcases hgap : w.gap with - | ⟨d, gap⟩
  · -- without a blank in between, the second argument has to be in quotes
    have hquoted : w.isQuoted = true := by
      rcases h with h | h | h
      · exact absurd h (by simp [hv])
      · exact h
      · exact absurd hgap h
    rw [spelling, if_pos hquoted]
    exact endsWord_quote _
  · exact endsWord_blank (w.gap_blank d (hgap ▸ List.mem_cons_self)) _

/-- One argument is the first word of its line. -/
theorem splitWords_spelling (w : Written) {rest : List Char}
    (hrest : w.isQuoted = false → EndsWord rest) :
    splitWords (w.gap ++ (w.spelling ++ rest)) = w.argument :: splitWords rest := by
  rw [splitWords_blanks w.gap_blank, spelling]
  cases hquoted : w.isQuoted with
  | true =>
    rw [if_pos rfl, List.append_assoc, List.cons_append]
    exact splitWords_quoted w.argument_ne_nil w.quote_not_mem rest
  | false =>
    rw [if_neg Bool.false_ne_true]
    refine splitWords_bare w.argument_ne_nil (fun c hc ↦ ?_) (hrest hquoted)
    exact isBare_iff.2 ⟨ne_of_mem_of_not_mem hc w.quote_not_mem, w.not_blank_of_bare hquoted c hc⟩

/-- **The arguments come first**, if what follows the last one ends it. -/
theorem splitWords_chars (hchained : ws.IsChain Follows) {rest : List Char}
    (hrest : EndsWord rest) :
    splitWords (chars ws ++ rest) = ws.map argument ++ splitWords rest := by
  induction ws with
  | nil => rfl
  | cons w ws ih =>
    have hnext : w.isQuoted = false → EndsWord (chars ws ++ rest) := by
      intro hbare
      cases ws with
      | nil => exact hrest
      | cons w' ws =>
        rw [chars_cons, List.append_assoc, List.append_assoc]
        exact (List.isChain_cons_cons.1 hchained).1.endsWord hbare _
    rw [chars_cons, List.append_assoc, List.append_assoc, splitWords_spelling w hnext,
      ih hchained.tail, List.map_cons, List.cons_append]

end Written

namespace Rendering

variable (r : Rendering)

/-- What follows the last argument ends it. -/
theorem endsWord_rest : EndsWord (r.trailing ++ r.tailChars) := by
  rcases htrailing : r.trailing with - | ⟨d, trailing⟩
  · rcases htail : r.tail with - | u <;> rw [tailChars, htail]
    · exact endsWord_nil
    · exact endsWord_quote _
  · exact endsWord_blank (r.trailing_blank d (htrailing ▸ List.mem_cons_self)) _

theorem splitWords_tailChars : splitWords r.tailChars = (r.tail.map tailWords).getD [] := by
  rcases htail : r.tail with - | u <;> rw [tailChars, htail]
  · rw [Option.map_none, Option.getD_none, splitWords]
    rfl
  · exact splitWords_tail (r.quote_not_mem_tail u htail)

/-- Every list of texts has a rendering, unless one of them is empty or holds a quote. -/
theorem exists_of_arguments (as : List String)
    (h : ∀ a ∈ as, a.toList ≠ [] ∧ '"' ∉ a.toList) : ∃ r : Rendering, r.arguments = as := by
  induction as with
  | nil => exact ⟨⟨[], .nil, [], by simp, none, by simp⟩, rfl⟩
  | cons a as ih =>
    obtain ⟨⟨hne, hquote⟩, has⟩ := List.forall_mem_cons.1 h
    obtain ⟨r, hr⟩ := ih has
    -- in quotes the argument can stand in front of any other
    let w : Written := ⟨[], a.toList, true, by simp, hne, hquote, by simp⟩
    have hchained : (w :: r.written).IsChain Written.Follows :=
      List.isChain_cons.2 ⟨fun _ _ ↦ .inl rfl, r.chained⟩
    refine ⟨{ r with written := w :: r.written, chained := hchained }, ?_⟩
    rw [arguments, List.map_cons, String.ofList_toList]
    exact congrArg _ hr

end Rendering

/-- **The words of a line are the arguments that were written on it**, in order, and then the words
behind a quote that was never closed. -/
theorem words_text (r : Rendering) : words r.text = r.arguments ++ r.furtherWords := by
  have hsplit : splitWords (Written.chars r.written ++ r.trailing ++ r.tailChars) =
      r.written.map Written.argument ++ (r.tail.map tailWords).getD [] := by
    rw [List.append_assoc, Written.splitWords_chars r.chained r.endsWord_rest,
      splitWords_blanks r.trailing_blank, r.splitWords_tailChars]
  rw [words, Rendering.text, String.toList_ofList, hsplit, List.map_append, List.map_map]
  rfl

example : words "\"a b\"c\" \n\" d\"e f" = ["a b", "c", " \n", "d", "\"e", "f"] := by cbv

end Organizer.CommandLine
