import Organizer.Proofs.CommandLine.EmptyQuotes

/-!
# What becomes of the characters of a line

However the quotes of a line are placed, its words account for all of it: they hold, in order, every
character that is neither blank nor a quote, and no other such character
(`kept_flatten_splitWords`). A word is a text without quotes, or a quote that sticks to a run
(`IsWord`). A word holds a blank only if it is all that stands between two quotes of the line; what
comes before these and what comes behind them is then divided on its own, as if the word were not
there (`standsInQuotes`).

All of this is by induction on a line from the left (`line_induction`), with a case for each thing
that a line can begin with. A quote is one of three: it is closed further on, or right away, or
never. In the second case it vanishes, and the next one counts as the first of a pair.
-/

namespace Organizer.CommandLine

open Text

variable {cs w : List Char}

/-! ### Lines from the left -/

/-- A line is empty, or begins with a blank, with a run, or with a quote. -/
theorem line_induction {motive : List Char → Prop} (nil : motive [])
    (blank : ∀ c rest, isBlank c = true → motive rest → motive (c :: rest))
    (bare : ∀ w rest, w ≠ [] → (∀ c ∈ w, isBare c = true) → EndsWord rest → motive rest →
      motive (w ++ rest))
    (quoted : ∀ w rest, w ≠ [] → '"' ∉ w → motive rest → motive ('"' :: (w ++ '"' :: rest)))
    (emptyQuotes : ∀ rest, motive ('"' :: rest) → motive ('"' :: '"' :: rest))
    (unclosed : ∀ w rest, (∀ c ∈ w, isBare c = true) → EndsWord rest → '"' ∉ w ++ rest →
      motive rest → motive ('"' :: (w ++ rest)))
    (cs : List Char) : motive cs := by
  induction hn : cs.length using Nat.strongRecOn generalizing cs with
  | _ n ih =>
  have shorter (rest : List Char) (h : rest.length < cs.length) : motive rest :=
    ih rest.length (hn ▸ h) rest rfl
  match cs with
  | [] => exact nil
  | c :: rest =>
    by_cases hquote : c = '"'
    · subst hquote
      by_cases hmem : '"' ∈ rest
      · -- the quote is closed, at the next one
        obtain ⟨w, rest, rfl, hw⟩ := List.eq_append_cons_of_mem hmem
        rcases eq_or_ne w [] with rfl | hne
        · exact emptyQuotes rest (shorter _ (by simp))
        · exact quoted w rest hne hw (shorter _ (by grind))
      · obtain ⟨w, rest, rfl, hw, hrest⟩ := exists_run rest
        exact unclosed w rest hw hrest hmem (shorter _ (by grind))
    · by_cases hblank : isBlank c = true
      · exact blank c rest hblank (shorter _ (by simp))
      · obtain ⟨w, rest', heq, hw, hrest'⟩ := exists_run (c :: rest)
        have hne : w ≠ [] := by
          rintro rfl
          have hc := hrest' c (by rw [← List.nil_append rest', ← heq]; rfl)
          exact (isBare_eq_false_iff.1 hc).elim hquote hblank
        have hpos := List.length_pos_iff.2 hne
        rw [heq]
        exact bare w rest' hne hw hrest' (shorter _ (by rw [heq, List.length_append]; omega))

/-- A quote without a partner sticks to the run behind it, if there is one. -/
theorem splitWords_stuck {rest : List Char} (hw : ∀ c ∈ w, isBare c = true)
    (hrest : EndsWord rest) (hquote : '"' ∉ w ++ rest) :
    splitWords ('"' :: (w ++ rest)) =
      (if w = [] then [] else [('"' :: w)]) ++ splitWords rest := by
  rw [splitWords_unclosed hquote rfl hw hrest]
  split <;> rfl

/-! ### What is kept -/

/-- What is left of a text without its blanks and quotes. -/
def kept (cs : List Char) : List Char := cs.filter isBare

theorem kept_append (cs ds : List Char) : kept (cs ++ ds) = kept cs ++ kept ds :=
  List.filter_append ..

theorem kept_quote (cs : List Char) : kept ('"' :: cs) = kept cs := rfl

theorem kept_blank {c : Char} (hc : isBlank c = true) (cs : List Char) :
    kept (c :: cs) = kept cs :=
  List.filter_cons_of_neg (by simp [isBare, hc])

/-- **The words hold what is neither blank nor a quote**, in order. -/
theorem kept_flatten_splitWords (cs : List Char) : kept (splitWords cs).flatten = kept cs := by
  induction cs using line_induction with
  | nil => rw [splitWords]; rfl
  | blank c rest hc ih => rw [splitWords_blank hc, ih, kept_blank hc]
  | bare w rest hne hw hrest ih =>
    rw [splitWords_bare hne hw hrest, List.flatten_cons, kept_append, kept_append, ih]
  | quoted w rest hne hw ih =>
    rw [splitWords_quoted hne hw, List.flatten_cons, kept_append, ih, kept_quote, kept_append,
      kept_quote]
  | emptyQuotes rest ih => rw [splitWords_emptyQuotes, ih, kept_quote, kept_quote, kept_quote]
  | unclosed w rest hw hrest hquote ih =>
    rw [splitWords_stuck hw hrest hquote, List.flatten_append, kept_append, kept_quote,
      kept_append, ih]
    split
    · subst w
      rfl
    · rw [List.flatten_singleton, kept_quote]

/-! ### What a word is -/

/-- A word is not empty, and it holds no quote, or one that sticks to a run. -/
structure IsWord (w : List Char) : Prop where
  ne_nil : w ≠ []
  quote : '"' ∉ w ∨ ∃ run, run ≠ [] ∧ w = '"' :: run ∧ ∀ c ∈ run, isBare c = true

/-- A quote that sticks to a run is in no word with a blank. -/
theorem IsWord.quote_not_mem_of_blank (h : IsWord w) (hblank : ∃ c ∈ w, isBlank c = true) :
    '"' ∉ w := by
  refine h.quote.resolve_right ?_
  rintro ⟨run, -, rfl, hrun⟩
  obtain ⟨c, hc, hblank⟩ := hblank
  rcases List.mem_cons.1 hc with rfl | hc
  · exact absurd hblank (by decide)
  · exact absurd hblank (by simp [(isBare_iff.1 (hrun c hc)).2])

theorem isWord_of_mem_splitWords (h : w ∈ splitWords cs) : IsWord w := by
  induction cs using line_induction with
  | nil =>
    rw [splitWords] at h
    cases h
  | blank c rest hc ih => exact ih (splitWords_blank hc rest ▸ h)
  | bare v rest hne hv hrest ih =>
    rw [splitWords_bare hne hv hrest] at h
    rcases List.mem_cons.1 h with rfl | h
    · exact ⟨hne, .inl fun hmem ↦ (isBare_iff.1 (hv _ hmem)).1 rfl⟩
    · exact ih h
  | quoted v rest hne hv ih =>
    rw [splitWords_quoted hne hv] at h
    rcases List.mem_cons.1 h with rfl | h
    · exact ⟨hne, .inl hv⟩
    · exact ih h
  | emptyQuotes rest ih => exact ih (splitWords_emptyQuotes rest ▸ h)
  | unclosed v rest hv hrest hquote ih =>
    rw [splitWords_stuck hv hrest hquote] at h
    rcases List.mem_append.1 h with h | h
    · split at h
      · cases h
      · cases List.mem_singleton.1 h
        exact ⟨List.cons_ne_nil _ _, .inr ⟨v, ‹_›, rfl, hv⟩⟩
    · exact ih h

/-- The word is all that stands between two quotes of the line. What comes before these is divided
into the earlier words, and what comes behind them into the later ones. -/
def StandsInQuotes (w cs : List Char) (earlier later : List (List Char)) : Prop :=
  ∃ before after, cs = before ++ '"' :: (w ++ '"' :: after) ∧
    splitWords before = earlier ∧ splitWords after = later

/-- The line may begin with something else, if that is divided off in front of the quotes as well. -/
theorem StandsInQuotes.append {earlier later : List (List Char)}
    (h : StandsInQuotes w cs earlier later) (front : List Char) (first : List (List Char))
    (hfront : ∀ before after, cs = before ++ '"' :: after →
      splitWords (front ++ before) = first ++ splitWords before) :
    StandsInQuotes w (front ++ cs) (first ++ earlier) later := by
  obtain ⟨before, after, heq, rfl, rfl⟩ := h
  refine ⟨front ++ before, after, ?_, hfront before _ heq, rfl⟩
  rw [List.append_assoc, ← heq]

/-- **A word with a blank stands in quotes.** -/
theorem standsInQuotes {earlier later : List (List Char)}
    (h : splitWords cs = earlier ++ w :: later) (hblank : ∃ c ∈ w, isBlank c = true) :
    StandsInQuotes w cs earlier later := by
  have hbare {v : List Char} (hv : ∀ c ∈ v, isBare c = true) : v ≠ w := by
    rintro rfl
    obtain ⟨c, hc, hblank⟩ := hblank
    exact absurd hblank (by simp [(isBare_iff.1 (hv c hc)).2])
  induction cs using line_induction generalizing earlier with
  | nil =>
    rw [splitWords] at h
    exact absurd h (by simp)
  | blank c rest hc ih =>
    rw [splitWords_blank hc] at h
    exact (ih h).append [c] [] fun before _ _ ↦ splitWords_blank hc before
  | bare v rest hne hv hrest ih =>
    rw [splitWords_bare hne hv hrest] at h
    rcases List.cons_eq_append_iff.1 h with ⟨-, heq⟩ | ⟨earlier, rfl, hrest'⟩
    · exact absurd (List.cons.inj heq).1.symm (hbare hv)
    · refine (ih hrest').append v [v] fun before after heq ↦ ?_
      -- the run ends in front of the quotes as it does in the line
      refine splitWords_bare hne hv ?_
      cases before with
      | nil => exact endsWord_nil
      | cons d before => exact fun c hc ↦ hrest c (heq ▸ hc)
  | quoted v rest hne hv ih =>
    rw [splitWords_quoted hne hv] at h
    rcases List.cons_eq_append_iff.1 h with ⟨rfl, heq⟩ | ⟨earlier, rfl, hrest⟩
    · obtain ⟨rfl, rfl⟩ := List.cons.inj heq
      exact ⟨[], rest, rfl, by rw [splitWords], rfl⟩
    · have happend := (ih hrest).append ('"' :: (v ++ ['"'])) [v]
        fun before _ _ ↦ by
          rw [List.cons_append, List.append_assoc]
          exact splitWords_quoted hne hv before
      rwa [List.cons_append, List.append_assoc] at happend
  | emptyQuotes rest ih =>
    rw [splitWords_emptyQuotes] at h
    refine (ih h).append ['"'] [] fun before after heq ↦ ?_
    -- what comes before the word is nothing, or begins with the second quote
    cases before with
    | nil => rw [List.append_nil, splitWords_tail List.not_mem_nil, splitWords]; rfl
    | cons d before =>
      obtain ⟨rfl, -⟩ := List.cons.inj heq
      exact splitWords_emptyQuotes before
  | unclosed v rest hv hrest hquote ih =>
    -- there is no quote behind one that is never closed
    have hno {earlier : List (List Char)} (h : splitWords rest = earlier ++ w :: later) : False := by
      obtain ⟨before, after, rfl, -⟩ := ih h
      exact hquote (by simp)
    rw [splitWords_stuck hv hrest hquote] at h
    split at h
    · exact (hno h).elim
    · rcases List.cons_eq_append_iff.1 h with ⟨-, heq⟩ | ⟨earlier, -, hrest'⟩
      · obtain ⟨rfl, -⟩ := List.cons.inj heq
        have hword : IsWord ('"' :: v) := ⟨List.cons_ne_nil _ _, .inr ⟨v, ‹_›, rfl, hv⟩⟩
        exact absurd List.mem_cons_self (hword.quote_not_mem_of_blank hblank)
      · exact (hno hrest').elim

/-! ### The words of a line -/

/-- **The words account for the line.** Without blanks and quotes they are the line without blanks
and quotes; each is a text without quotes, or a quote and a run; and one with a blank in it is all
that stands between two quotes of the line, the earlier words being those of what comes before
these, and the later ones those of what comes behind them. -/
theorem words_account (line : String) :
    kept (String.join (words line)).toList = kept line.toList ∧
      (∀ word ∈ words line, IsWord word.toList) ∧
      ∀ earlier word later, words line = earlier ++ word :: later →
        (∃ c ∈ word.toList, isBlank c = true) → '"' ∉ word.toList ∧
          ∃ before after, line = before ++ "\"" ++ word ++ "\"" ++ after ∧
            words before = earlier ∧ words after = later := by
  refine ⟨?_, fun word hword ↦ ?_, fun earlier word later hwords hblank ↦ ?_⟩
  · rw [String.toList_join, words, List.flatMap_map]
    simp only [String.toList_ofList, List.flatMap_id']
    exact kept_flatten_splitWords line.toList
  · obtain ⟨w, hw, rfl⟩ := List.mem_map.1 hword
    rw [String.toList_ofList]
    exact isWord_of_mem_splitWords hw
  · obtain ⟨pre, rest, hsplit, rfl, hrest⟩ := List.map_eq_append_iff.1 hwords
    obtain ⟨w, post, rfl, rfl, rfl⟩ := List.map_eq_cons_iff.1 hrest
    rw [String.toList_ofList] at hblank ⊢
    have hmem : w ∈ splitWords line.toList := hsplit ▸ List.mem_append_right _ List.mem_cons_self
    obtain ⟨before, after, heq, hbefore, hafter⟩ := standsInQuotes hsplit hblank
    refine ⟨(isWord_of_mem_splitWords hmem).quote_not_mem_of_blank hblank, String.ofList before,
      String.ofList after, String.toList_inj.1 (heq.trans ?_), ?_, ?_⟩
    · simp
    · rw [words, String.toList_ofList, hbefore]
    · rw [words, String.toList_ofList, hafter]

/-- Quotes right behind a word, and one that is never closed. -/
theorem words_account_beside_unclosed :
    words "x\"a b\" \"y" = ["x"] ++ "a b" :: ["\"y"] ∧
      (∃ c ∈ "a b".toList, isBlank c = true) ∧ "a b" ∈ words "x\"a b\" \"y" ∧
      IsWord "a b".toList ∧
      ∃ before after, "x\"a b\" \"y" = before ++ "\"" ++ "a b" ++ "\"" ++ after ∧
        words before = ["x"] ∧ words after = ["\"y"] := by
  have hwords : words "x\"a b\" \"y" = ["x"] ++ "a b" :: ["\"y"] := by cbv
  have hblank : ∃ c ∈ "a b".toList, isBlank c = true := ⟨' ', by decide, rfl⟩
  have hmem : "a b" ∈ words "x\"a b\" \"y" := by simp [hwords]
  obtain ⟨-, hword, hquotes⟩ := words_account "x\"a b\" \"y"
  exact ⟨hwords, hblank, hmem, hword _ hmem, (hquotes _ _ _ hwords hblank).2⟩

end Organizer.CommandLine
