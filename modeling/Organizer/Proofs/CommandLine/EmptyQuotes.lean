import Organizer.Proofs.CommandLine.Rendering

/-!
# Empty quotes on a line

Two quotes with nothing in between are no word, but they do not vanish without a trace. What stands
in quotes must not be empty, and so only the first of the two is passed over: the second opens
whatever stands up to the next quote, if there is one. From there on the line is turned inside out
(`turned`): what stands between its quotes is a word, with all blanks, and what stands in quotes is
divided at its blanks.

A `SpacedLine` is a line of arguments and empty quotes with blanks in between, and `Item.wordsOf`
are the words that are found on it (`Item.splitWords_chars`). So empty quotes yield nothing if no
further quote comes behind them (`Item.Harmless`), and, unless an argument is blank, only then
(`words_beside_emptyQuotes`).
-/

namespace Organizer.CommandLine

open Text

/-! ### Lines with empty quotes -/

/-- What stands on a line: an argument, or two quotes with nothing in between, with the blanks in
front of them. -/
inductive Item
  | argument (w : Written)
  | emptyQuotes (gap : List Char) (gap_blank : ∀ c ∈ gap, isBlank c = true)

/-- The pieces of a text between its quotes. -/
def betweenQuotes (cs : List Char) : List (List Char) := cs.splitOnP (· == '"')

/-- The words of pieces with quotes in between, if a quote is open in front of them: in turn, a
piece is one word, and a piece is divided at its blanks. So is the last, as its quote is never
closed. -/
def turned : List (List Char) → List (List Char)
  | [] => []
  | [piece] => runs piece
  | whole :: divided :: pieces => whole :: (runs divided ++ turned pieces)

namespace Item

/-- The blanks in front of it. -/
def gap : Item → List Char
  | .argument w => w.gap
  | .emptyQuotes gap _ => gap

/-- How it is written. -/
def spelling : Item → List Char
  | .argument w => w.spelling
  | .emptyQuotes _ _ => ['"', '"']

/-- The argument, if it is one. -/
def argument? : Item → Option (List Char)
  | .argument w => some w.argument
  | .emptyQuotes _ _ => none

/-- Is it an argument without quotes? -/
def isBare : Item → Bool
  | .argument w => !w.isQuoted
  | .emptyQuotes _ _ => false

/-- The characters of items, one after the other. -/
def chars (items : List Item) : List Char := items.flatMap fun item ↦ item.gap ++ item.spelling

/-- The arguments among items. -/
def arguments (items : List Item) : List (List Char) := items.filterMap argument?

/-- The words of items and of the blanks after them: the arguments up to the first empty quotes, and
then what stands behind these, turned inside out. -/
def wordsOf (trailing : List Char) : List Item → List (List Char)
  | [] => []
  | .argument w :: items => w.argument :: wordsOf trailing items
  | .emptyQuotes _ _ :: items => turned (betweenQuotes (chars items ++ trailing))

/-- No quote comes behind empty quotes. -/
def Harmless (items : List Item) : Prop :=
  items.Pairwise fun item later ↦ item.argument? = none → later.isBare = true

end Item

/-- A line of items with blanks in between. -/
structure SpacedLine where
  items : List Item
  spaced : ∀ item ∈ items.tail, item.gap ≠ []
  /-- The blanks after the last item. -/
  trailing : List Char
  trailing_blank : ∀ c ∈ trailing, isBlank c = true

namespace SpacedLine

variable (l : SpacedLine)

/-- The line. -/
def text : String := String.ofList (Item.chars l.items ++ l.trailing)

/-- The arguments that are written on the line. -/
def arguments : List String := (Item.arguments l.items).map String.ofList

/-- The line without its empty quotes. -/
def withoutEmptyQuotes : SpacedLine where
  items := l.items.filter fun item ↦ item.argument?.isSome
  spaced item hitem := by
    refine l.spaced item ?_
    cases hitems : l.items with
    | nil => simp [hitems] at hitem
    | cons first items =>
      rw [hitems, List.filter_cons] at hitem
      split at hitem
      · exact List.mem_of_mem_filter hitem
      · exact List.mem_of_mem_filter (List.mem_of_mem_tail hitem)
  trailing := l.trailing
  trailing_blank := l.trailing_blank

end SpacedLine

/-! ### Behind an open quote -/

/-- The text does not begin with a part of a word. -/
def BeginsBlank (cs : List Char) : Prop := ∀ c ∈ cs.head?, isBlank c = true

section

variable {cs whole divided rest : List Char}

theorem beginsBlank_nil : BeginsBlank [] := fun _ hc ↦ absurd hc (Option.not_mem_none _)

theorem BeginsBlank.of_forall (h : ∀ c ∈ cs, isBlank c = true) : BeginsBlank cs :=
  fun c hc ↦ h c (List.mem_of_mem_head? hc)

theorem BeginsBlank.append (h : BeginsBlank cs) (hrest : BeginsBlank rest) :
    BeginsBlank (cs ++ rest) := by
  cases cs with
  | nil => exact hrest
  | cons c cs => exact h

theorem BeginsBlank.append_left (h : BeginsBlank cs) (hne : cs ≠ []) (rest : List Char) :
    BeginsBlank (cs ++ rest) := by
  obtain ⟨c, cs, rfl⟩ := List.exists_cons_of_ne_nil hne
  exact h

theorem BeginsBlank.endsWord (h : BeginsBlank cs) : EndsWord cs :=
  fun c hc ↦ isBare_eq_false_iff.2 (.inr (h c hc))

/-- A quote that is never closed sticks to nothing if a blank comes next. -/
theorem splitWords_unclosed_blank (hquote : '"' ∉ cs) (h : BeginsBlank cs) :
    splitWords ('"' :: cs) = runs cs := by
  rw [splitWords_unclosed hquote (List.nil_append cs).symm (List.forall_mem_nil _) h.endsWord,
    if_pos rfl, splitWords_of_quote_not_mem hquote]

theorem betweenQuotes_of_quote_not_mem (h : '"' ∉ cs) : betweenQuotes cs = [cs] :=
  List.splitOnP_eq_singleton fun c hc ↦ by simpa using ne_of_mem_of_not_mem hc h

theorem betweenQuotes_append (hwhole : '"' ∉ whole) (rest : List Char) :
    betweenQuotes (whole ++ '"' :: rest) = whole :: betweenQuotes rest := by
  rw [betweenQuotes, List.splitOnP_append_cons _ _ rfl, ← betweenQuotes, ← betweenQuotes,
    betweenQuotes_of_quote_not_mem hwhole, List.singleton_append]

/-- An open quote goes on to the next, and what follows that is divided at blanks. -/
theorem splitWords_open (hne : whole ≠ []) (hwhole : '"' ∉ whole) (hdivided : '"' ∉ divided)
    (hrest : splitWords ('"' :: rest) = turned (betweenQuotes rest)) :
    splitWords ('"' :: (whole ++ '"' :: (divided ++ '"' :: rest))) =
      turned (betweenQuotes (whole ++ '"' :: (divided ++ '"' :: rest))) := by
  rw [splitWords_quoted hne hwhole,
    splitWords_append_of_quote_not_mem hdivided (endsWord_quote rest), hrest,
    betweenQuotes_append hwhole, betweenQuotes_append hdivided, turned]

/-- If there is a quote, the first word goes on to it. -/
theorem turned_append (hwhole : '"' ∉ whole) (rest : List Char) :
    ∃ ws, turned (betweenQuotes (whole ++ '"' :: rest)) = whole :: ws := by
  obtain ⟨piece, pieces, hpieces⟩ :=
    List.exists_cons_of_ne_nil (List.splitOnP_ne_nil (· == '"') rest)
  refine ⟨runs piece ++ turned pieces, ?_⟩
  rw [betweenQuotes_append hwhole, betweenQuotes, hpieces, turned]

end

/-! ### The words of a line -/

theorem quote_not_mem_of_blank {cs : List Char} (h : ∀ c ∈ cs, isBlank c = true) : '"' ∉ cs :=
  fun hmem ↦ absurd (h _ hmem) (by decide)

/-- Without quotes an argument does not begin with a blank. -/
theorem Written.not_beginsBlank (w : Written) (hbare : w.isQuoted = false) (rest : List Char) :
    ¬BeginsBlank (w.argument ++ rest) := by
  intro hbegins
  obtain ⟨c, cs, hargument⟩ := List.exists_cons_of_ne_nil w.argument_ne_nil
  have hnot := w.not_blank_of_bare hbare c (hargument ▸ List.mem_cons_self)
  have hblank : isBlank c = true := hbegins c (by rw [hargument]; rfl)
  exact absurd hblank (by simp [hnot])

/-- Of empty quotes the first is passed over, but not the second. -/
theorem splitWords_emptyQuotes (cs : List Char) :
    splitWords ('"' :: '"' :: cs) = splitWords ('"' :: cs) := by
  have hbare : isBare '"' = false := rfl
  rw [splitWords, if_pos rfl]
  simp [hbare]

namespace Item

variable {items : List Item} {trailing : List Char}

theorem gap_blank (item : Item) : ∀ c ∈ item.gap, isBlank c = true := by
  cases item with
  | argument w => exact w.gap_blank
  | emptyQuotes gap gap_blank => exact gap_blank

theorem quote_not_mem_spelling {item : Item} (h : item.isBare = true) : '"' ∉ item.spelling := by
  cases item with
  | argument w =>
    have hbare : w.isQuoted = false := by simpa [isBare] using h
    rw [spelling, Written.spelling, hbare]
    exact w.quote_not_mem
  | emptyQuotes gap gap_blank => cases h

/-- All other items have a quote at each end, and none in between. -/
theorem exists_spelling_eq {item : Item} (h : item.isBare = false) :
    ∃ inside, '"' ∉ inside ∧ item.spelling = '"' :: (inside ++ ['"']) := by
  cases item with
  | argument w =>
    have hquoted : w.isQuoted = true := by simpa [isBare] using h
    exact ⟨w.argument, w.quote_not_mem, by rw [spelling, Written.spelling, if_pos hquoted]; rfl⟩
  | emptyQuotes gap gap_blank => exact ⟨[], List.not_mem_nil, rfl⟩

@[simp] theorem chars_nil : chars [] = [] := rfl

@[simp] theorem chars_cons (item : Item) (items : List Item) :
    chars (item :: items) = item.gap ++ (item.spelling ++ chars items) := by
  simp [chars]

/-- Items with blanks in front of them begin with a blank. -/
theorem beginsBlank_chars (hspaced : ∀ item ∈ items, item.gap ≠ [])
    (htrailing : ∀ c ∈ trailing, isBlank c = true) : BeginsBlank (chars items ++ trailing) := by
  cases items with
  | nil => exact .of_forall htrailing
  | cons item items =>
    rw [chars_cons, List.append_assoc]
    exact (BeginsBlank.of_forall item.gap_blank).append_left (hspaced _ List.mem_cons_self) _

/-- **Behind an open quote a line is turned inside out.** -/
theorem splitWords_behind (hspaced : ∀ item ∈ items, item.gap ≠ [])
    (htrailing : ∀ c ∈ trailing, isBlank c = true) {read : List Char} (hquote : '"' ∉ read)
    (hread : BeginsBlank read) :
    splitWords ('"' :: (read ++ (chars items ++ trailing))) =
      turned (betweenQuotes (read ++ (chars items ++ trailing))) := by
  induction items generalizing read with
  | nil =>
    have hnone : '"' ∉ read ++ trailing := by
      simp [hquote, quote_not_mem_of_blank htrailing]
    rw [chars_nil, List.nil_append, betweenQuotes_of_quote_not_mem hnone, turned]
    exact splitWords_unclosed_blank hnone (hread.append (.of_forall htrailing))
  | cons item items ih =>
    obtain ⟨hgap, hitems⟩ := List.forall_mem_cons.1 hspaced
    have hnone : '"' ∉ read ++ item.gap := by
      simp [hquote, quote_not_mem_of_blank item.gap_blank]
    cases hbare : item.isBare with
    | true =>
      -- the word that is being read goes on
      have htext : read ++ (chars (item :: items) ++ trailing) =
          read ++ item.gap ++ item.spelling ++ (chars items ++ trailing) := by simp
      rw [htext]
      refine ih hitems (fun hmem ↦ ?_) ?_
      · exact (List.mem_append.1 hmem).elim hnone (quote_not_mem_spelling hbare)
      · rw [List.append_assoc]
        exact hread.append ((BeginsBlank.of_forall item.gap_blank).append_left hgap _)
    | false =>
      -- a quote ends the word that has been read, and the next one opens another
      obtain ⟨inside, hinside, hspelling⟩ := exists_spelling_eq hbare
      have htext : read ++ (chars (item :: items) ++ trailing) =
          read ++ item.gap ++ '"' :: (inside ++ '"' :: (chars items ++ trailing)) := by
        simp [hspelling]
      rw [htext]
      exact splitWords_open (by simp [hgap]) hnone hinside
        (ih hitems List.not_mem_nil beginsBlank_nil)

/-- **The words of a line with empty quotes.** -/
theorem splitWords_chars (hspaced : ∀ item ∈ items.tail, item.gap ≠ [])
    (htrailing : ∀ c ∈ trailing, isBlank c = true) :
    splitWords (chars items ++ trailing) = wordsOf trailing items := by
  induction items with
  | nil =>
    have hblanks := splitWords_blanks htrailing []
    rw [List.append_nil] at hblanks
    rw [chars_nil, List.nil_append, hblanks, splitWords, wordsOf]
  | cons item items ih =>
    have hitems : ∀ item ∈ items, item.gap ≠ [] := hspaced
    rw [chars_cons, List.append_assoc, List.append_assoc]
    cases item with
    | argument w =>
      have hends := (beginsBlank_chars hitems htrailing).endsWord
      have hrest := ih fun item hitem ↦ hitems item (List.mem_of_mem_tail hitem)
      rw [gap, spelling, w.splitWords_spelling fun _ ↦ hends, hrest, wordsOf]
    | emptyQuotes gap gap_blank =>
      have hbehind := splitWords_behind hitems htrailing List.not_mem_nil beginsBlank_nil
      rw [List.nil_append] at hbehind
      rw [Item.gap, splitWords_blanks gap_blank]
      exact (splitWords_emptyQuotes _).trans hbehind

/-! ### Harmless quotes -/

theorem quote_not_mem_chars (h : ∀ item ∈ items, item.isBare = true) : '"' ∉ chars items := by
  intro hmem
  obtain ⟨item, hitem, hquote⟩ := List.mem_flatMap.1 hmem
  exact (List.mem_append.1 hquote).elim (quote_not_mem_of_blank item.gap_blank)
    (quote_not_mem_spelling (h item hitem))

theorem quote_mem_chars (h : ∃ item ∈ items, item.isBare = false) : '"' ∈ chars items := by
  obtain ⟨item, hitem, hquoted⟩ := h
  obtain ⟨inside, -, hspelling⟩ := exists_spelling_eq hquoted
  exact List.mem_flatMap.2 ⟨item, hitem, List.mem_append_right _ (by simp [hspelling])⟩

/-- Harmless empty quotes yield nothing. -/
theorem wordsOf_of_harmless (h : Harmless items) (hspaced : ∀ item ∈ items.tail, item.gap ≠ [])
    (htrailing : ∀ c ∈ trailing, isBlank c = true) : wordsOf trailing items = arguments items := by
  induction items with
  | nil => rfl
  | cons item items ih =>
    obtain ⟨hlater, hrest⟩ := List.pairwise_cons.1 h
    have hspaced' : ∀ item ∈ items.tail, item.gap ≠ [] :=
      fun item hitem ↦ hspaced item (List.mem_of_mem_tail hitem)
    have hrest := ih hrest hspaced'
    cases item with
    | argument w => exact congrArg (w.argument :: ·) hrest
    | emptyQuotes gap gap_blank =>
      have hnone : '"' ∉ chars items ++ trailing := by
        have hbare : ∀ item ∈ items, item.isBare = true := fun item hitem ↦ hlater item hitem rfl
        simp [quote_not_mem_chars hbare, quote_not_mem_of_blank htrailing]
      calc wordsOf trailing (.emptyQuotes gap gap_blank :: items)
          = runs (chars items ++ trailing) := by
            rw [wordsOf, betweenQuotes_of_quote_not_mem hnone, turned]
        _ = wordsOf trailing items := by
            rw [← splitWords_of_quote_not_mem hnone, splitWords_chars hspaced' htrailing]
        _ = arguments items := hrest
        _ = arguments (.emptyQuotes gap gap_blank :: items) := rfl

/-- **Behind an open quote the first word is no argument** if there is another quote, since a word
that a quote ends begins with the blank in front of it, or is blank. -/
theorem turned_ne_arguments (hspaced : ∀ item ∈ items, item.gap ≠ [])
    (hblank : ∀ a ∈ arguments items, ∃ c ∈ a, isBlank c = false)
    (hquote : ∃ item ∈ items, item.isBare = false) :
    turned (betweenQuotes (chars items ++ trailing)) ≠ arguments items := by
  intro h
  cases items with
  | nil => simp at hquote
  | cons item items =>
    have hgap := hspaced item List.mem_cons_self
    cases hbare : item.isBare with
    | false =>
      -- the quote is right behind the first blanks
      obtain ⟨inside, -, hspelling⟩ := exists_spelling_eq hbare
      have htext : chars (item :: items) ++ trailing =
          item.gap ++ '"' :: (inside ++ '"' :: (chars items ++ trailing)) := by simp [hspelling]
      obtain ⟨ws, hturned⟩ := turned_append (quote_not_mem_of_blank item.gap_blank)
        (inside ++ '"' :: (chars items ++ trailing))
      rw [htext, hturned] at h
      obtain ⟨c, hc, hnot⟩ := hblank item.gap (h ▸ List.mem_cons_self)
      exact absurd (item.gap_blank c hc) (by simp [hnot])
    | true =>
      cases item with
      | emptyQuotes gap gap_blank => cases hbare
      | argument w =>
        obtain ⟨whole, rest, htext, hwhole⟩ :=
          List.eq_append_cons_of_mem (List.mem_append_left trailing (quote_mem_chars hquote))
        obtain ⟨ws, hturned⟩ := turned_append hwhole rest
        rw [htext, hturned] at h
        obtain rfl : whole = w.argument := (List.cons.inj h).1
        have hbegins : BeginsBlank (w.argument ++ '"' :: rest) := by
          rw [← htext, chars_cons, List.append_assoc]
          exact (BeginsBlank.of_forall w.gap_blank).append_left hgap _
        exact w.not_beginsBlank (by simpa [isBare] using hbare) _ hbegins

/-- **Empty quotes that yield nothing are harmless**, unless an argument is blank. -/
theorem harmless_of_wordsOf (hspaced : ∀ item ∈ items.tail, item.gap ≠ [])
    (hblank : ∀ a ∈ arguments items, ∃ c ∈ a, isBlank c = false)
    (h : wordsOf trailing items = arguments items) : Harmless items := by
  induction items with
  | nil => exact .nil
  | cons item items ih =>
    have hitems : ∀ item ∈ items, item.gap ≠ [] := hspaced
    cases item with
    | argument w =>
      have hrest : wordsOf trailing items = arguments items := (List.cons.inj h).2
      refine List.pairwise_cons.2 ⟨fun _ _ hnone ↦ absurd hnone (by simp [argument?]), ?_⟩
      exact ih (fun item hitem ↦ hitems item (List.mem_of_mem_tail hitem))
        (List.forall_mem_cons.1 hblank).2 hrest
    | emptyQuotes gap gap_blank =>
      have hbare : ∀ item ∈ items, item.isBare = true := by
        intro item hitem
        by_contra hquote
        exact turned_ne_arguments hitems hblank ⟨item, hitem, by simpa using hquote⟩ h
      exact List.pairwise_cons.2 ⟨fun item hitem _ ↦ hbare item hitem,
        List.pairwise_of_forall_mem_list fun _ _ later hlater _ ↦ hbare later hlater⟩

end Item

/-! ### The result -/

namespace SpacedLine

variable (l : SpacedLine)

theorem words_eq_wordsOf : words l.text = (Item.wordsOf l.trailing l.items).map String.ofList := by
  rw [words, text, String.toList_ofList, Item.splitWords_chars l.spaced l.trailing_blank]

/-- On a line with harmless quotes the words are the arguments. -/
theorem words_eq_arguments (h : Item.Harmless l.items) : words l.text = l.arguments := by
  rw [words_eq_wordsOf, Item.wordsOf_of_harmless h l.spaced l.trailing_blank, arguments]

theorem arguments_withoutEmptyQuotes : l.withoutEmptyQuotes.arguments = l.arguments := by
  have hkept (item : Item) :
      (if item.argument?.isSome = true then item.argument? else none) = item.argument? := by
    cases item <;> rfl
  rw [arguments, arguments, Item.arguments, withoutEmptyQuotes, List.filterMap_filter]
  simp only [hkept]
  rfl

theorem harmless_withoutEmptyQuotes : Item.Harmless l.withoutEmptyQuotes.items :=
  List.pairwise_of_forall_mem_list fun item hitem _ _ hnone ↦ by
    simpa [hnone] using List.of_mem_filter hitem

end SpacedLine

/-- **Empty quotes yield nothing if no quote comes behind them**, and, unless an argument is blank,
only then. The words of a line are the arguments up to its first empty quotes; behind these the line
is turned inside out. -/
theorem words_beside_emptyQuotes (l : SpacedLine) :
    words l.text = (Item.wordsOf l.trailing l.items).map String.ofList ∧
      words l.withoutEmptyQuotes.text = l.arguments ∧
      (Item.Harmless l.items → words l.text = words l.withoutEmptyQuotes.text) ∧
      ((∀ a ∈ l.arguments, allBlank a = false) →
        words l.text = words l.withoutEmptyQuotes.text → Item.Harmless l.items) := by
  have hwithout : words l.withoutEmptyQuotes.text = l.arguments :=
    (l.withoutEmptyQuotes.words_eq_arguments l.harmless_withoutEmptyQuotes).trans
      l.arguments_withoutEmptyQuotes
  refine ⟨l.words_eq_wordsOf, hwithout, fun h ↦ ?_, fun hblank h ↦ ?_⟩
  · rw [hwithout, l.words_eq_arguments h]
  · rw [hwithout, l.words_eq_wordsOf, SpacedLine.arguments] at h
    refine Item.harmless_of_wordsOf l.spaced (fun a ha ↦ ?_)
      (List.map_injective_iff.2 (fun _ _ ↦ String.ofList_injective) h)
    have hnot := hblank (String.ofList a) (List.mem_map_of_mem ha)
    simpa [allBlank] using hnot

/-- The line `add "a b" "" c`, with blanks. -/
def SpacedLine.harmless : SpacedLine where
  items := [
    .argument ⟨[], "add".toList, false, by simp, by decide, by decide, by simp [isBlank]⟩,
    .argument ⟨[' '], "a b".toList, true, by simp [isBlank], by decide, by decide, by simp⟩,
    .emptyQuotes [' '] (by simp [isBlank]),
    .argument ⟨[' '], "c".toList, false, by simp [isBlank], by decide, by decide,
      by simp [isBlank]⟩]
  spaced := by decide
  trailing := []
  trailing_blank := by simp

/-- Empty quotes behind the last argument in quotes yield nothing. -/
theorem words_beside_emptyQuotes_last :
    Item.Harmless SpacedLine.harmless.items ∧
      (∀ a ∈ SpacedLine.harmless.arguments, allBlank a = false) ∧
      SpacedLine.harmless.text = "add \"a b\" \"\" c" ∧
      words SpacedLine.harmless.text = ["add", "a b", "c"] := by
  have hharmless : Item.Harmless SpacedLine.harmless.items := by
    unfold Item.Harmless
    decide
  have hblank : ∀ a ∈ SpacedLine.harmless.arguments, allBlank a = false := by decide +kernel
  obtain ⟨-, hwithout, hif, honly⟩ := words_beside_emptyQuotes SpacedLine.harmless
  exact ⟨honly hblank (hif hharmless), hblank, by decide +kernel,
    (hif hharmless).trans (hwithout.trans (by decide +kernel))⟩

/-- The line `"" a "b"`, with empty quotes at its beginning. -/
def SpacedLine.turnedOver : SpacedLine where
  items := [.emptyQuotes [] (by simp),
    .argument ⟨[' '], "a".toList, false, by simp [isBlank], by decide, by decide,
      by simp [isBlank]⟩,
    .argument ⟨[' '], "b".toList, true, by simp [isBlank], by decide, by decide, by simp⟩]
  spaced := by decide
  trailing := []
  trailing_blank := by simp

/-- **Empty quotes do not always yield nothing.** The second of them opens what the next quote
closes. -/
theorem not_always_nothing :
    ¬ ∀ l : SpacedLine, words l.text = words l.withoutEmptyQuotes.text := by
  intro h
  have hwords : words SpacedLine.turnedOver.text = [" a ", "b"] := by cbv
  have hwithout : words SpacedLine.turnedOver.withoutEmptyQuotes.text = ["a", "b"] := by cbv
  have hsame := h SpacedLine.turnedOver
  rw [hwords, hwithout] at hsame
  exact absurd hsame (by decide)

end Organizer.CommandLine
