import Organizer.Proofs.Markup.Scanning

/-!
# Protected texts

To protect a text makes the backslashes in front of each of its tags odd in number, and changes
nothing else (`scan_guardTags`); then a single backslash at the end is doubled. So there is no
active tag in a protected text (`isActive_of_mem_scan_escape`). Its brackets are those of the text,
and it leaves a tag open if the text does (`leavesOpen_escape`): to protect a text does not keep it
apart from what follows.
-/

namespace Organizer.Markup

variable {cs rest body : List Char} {c : Char}

/-- A text in which the tags are protected, but not yet the end. -/
def guardTags (cs : List Char) : List Char := (scan cs).flatMap Segment.escaped

/-- The backslash that protects the end. -/
def endGuard (cs : List Char) : List Char := if endsInSingleSlash cs then ['\\'] else []

theorem escape_eq (cs : List Char) : escape cs = guardTags cs ++ endGuard (guardTags cs) := by
  rw [escape, ← guardTags, endGuard]
  split <;> simp

/-! ### The tags -/

@[simp]
theorem guardTags_nil : guardTags [] = [] := by simp [guardTags]

theorem guardTags_tag (n : ℕ) (h : IsTag body) (rest : List Char) :
    guardTags ((Segment.tag n body).source ++ rest) =
      (Segment.tag (2 * n + 1) body).source ++ guardTags rest := by
  rw [guardTags, scan_tag n h, List.flatMap_cons]
  rfl

theorem guardTags_char (h : tagBody? (afterSlashes (c :: rest)) = none) :
    guardTags (c :: rest) = c :: guardTags rest := by
  rw [guardTags, scan_char h, List.flatMap_cons]
  rfl

theorem find?_slashes (n : ℕ) : (List.replicate n '\\').find? isBracket = none :=
  List.find?_eq_none.2 fun c hc ↦ by simp [List.eq_of_mem_replicate hc, isBracket]

theorem startsTag_source (n : ℕ) (body rest : List Char) :
    startsTag ((Segment.tag n body).source ++ rest) = false := by
  cases n <;> rfl

theorem find?_source (n : ℕ) (body rest : List Char) :
    ((Segment.tag n body).source ++ rest).find? isBracket = some '[' := by
  rw [Segment.source, List.append_assoc, List.find?_append, find?_slashes]
  rfl

theorem leavesOpen_source (n : ℕ) (body rest : List Char) :
    leavesOpen ((Segment.tag n body).source ++ rest) = leavesOpen rest := by
  have hsource : (Segment.tag n body).source ++ rest =
      (List.replicate n '\\' ++ '[' :: body) ++ (']' :: rest) := by
    simp [Segment.source, bracketed]
  rw [hsource, leavesOpen_append_of_bracket _ (by simp [isBracket])]
  rfl

@[simp]
theorem startsTag_guardTags (cs : List Char) : startsTag (guardTags cs) = startsTag cs := by
  cases cs using scan_induction with
  | nil => simp
  | tag n body rest h => rw [guardTags_tag n h, startsTag_source, startsTag_source]
  | char c rest h => rw [guardTags_char h]; rfl

@[simp]
theorem find?_guardTags (cs : List Char) :
    (guardTags cs).find? isBracket = cs.find? isBracket := by
  induction cs using scan_induction with
  | nil => simp
  | tag n body rest h => rw [guardTags_tag n h, find?_source, find?_source]
  | char c rest h ih => rw [guardTags_char h, List.find?_cons, List.find?_cons, ih]

@[simp]
theorem leavesOpen_guardTags (cs : List Char) : leavesOpen (guardTags cs) = leavesOpen cs := by
  induction cs using scan_induction with
  | nil => simp
  | tag n body rest h ih => rw [guardTags_tag n h, leavesOpen_source, leavesOpen_source, ih]
  | char c rest h ih =>
    rw [guardTags_char h, leavesOpen, leavesOpen, startsTag_guardTags, find?_guardTags, ih]

/-- No tag comes to the front where there was none. -/
theorem tagBody?_guardTags (h : tagBody? (afterSlashes cs) = none) :
    tagBody? (afterSlashes (guardTags cs)) = none := by
  induction cs using scan_induction with
  | nil => simp [afterSlashes, tagBody?]
  | tag n body rest htag =>
    rw [afterSlashes_source, tagBody?_bracketed htag] at h
    cases h
  | char c rest hnone ih =>
    rw [guardTags_char hnone]
    rcases eq_or_ne c '\\' with rfl | hslash
    · exact ih h
    rw [afterSlashes_of_ne hslash] at h ⊢
    rcases ne_or_eq c '[' with hc | rfl
    · exact tagBody?_of_ne hc
    · rw [tagBody?_cons_eq_none] at h ⊢
      rwa [startsTag_guardTags, find?_guardTags]

/-- A tag with an odd number of backslashes; what is no tag stays. -/
def Segment.guarded : Segment → Segment
  | .char c => .char c
  | .tag slashes body => .tag (2 * slashes + 1) body

/-- **To protect the tags makes their backslashes odd in number**, and changes nothing else. -/
theorem scan_guardTags (cs : List Char) : scan (guardTags cs) = (scan cs).map .guarded := by
  induction cs using scan_induction with
  | nil => simp
  | tag n body rest h ih =>
    rw [guardTags_tag n h, scan_tag _ h, scan_tag n h, ih]
    rfl
  | char c rest h ih =>
    have hnone : tagBody? (afterSlashes (c :: guardTags rest)) = none := by
      rw [← guardTags_char h]
      exact tagBody?_guardTags h
    rw [guardTags_char h, scan_char hnone, scan_char h, ih]
    rfl

/-! ### The end -/

/-- The backslashes at the end stay, for the protection of a tag goes in front of it. They are
counted from the end on, into what has been there before. -/
theorem leadingSlashes_reverse_guardTags (cs : List Char) {ds es : List Char}
    (h : leadingSlashes ds = leadingSlashes es) :
    leadingSlashes ((guardTags cs).reverse ++ ds) = leadingSlashes (cs.reverse ++ es) := by
  induction cs using scan_induction generalizing ds es with
  | nil => simpa using h
  | tag n body rest htag ih =>
    have hbracket (m : ℕ) (xs : List Char) :
        leadingSlashes ((Segment.tag m body).source.reverse ++ xs) = 0 := by
      simp [Segment.source, bracketed, leadingSlashes]
    rw [guardTags_tag n htag, List.reverse_append, List.append_assoc, List.reverse_append,
      List.append_assoc]
    exact ih (by rw [hbracket, hbracket])
  | char c rest hnone ih =>
    rw [guardTags_char hnone, List.reverse_cons, List.append_assoc, List.reverse_cons,
      List.append_assoc]
    refine ih ?_
    by_cases hc : c = '\\' <;> simp_all [leadingSlashes]

theorem endSlashes_guardTags (cs : List Char) :
    leadingSlashes (guardTags cs).reverse = leadingSlashes cs.reverse := by
  have h : leadingSlashes ((guardTags cs).reverse ++ []) = leadingSlashes (cs.reverse ++ []) :=
    leadingSlashes_reverse_guardTags cs rfl
  rwa [List.append_nil, List.append_nil] at h

theorem endsInSingleSlash_guardTags (cs : List Char) :
    endsInSingleSlash (guardTags cs) = endsInSingleSlash cs := by
  rw [endsInSingleSlash, endsInSingleSlash, endSlashes_guardTags]

/-! ### The whole -/

/-- Is the piece a tag that takes effect? -/
def Segment.isActive : Segment → Bool
  | .char _ => false
  | .tag slashes _ => slashes % 2 == 0

theorem find?_endGuard (cs : List Char) : (endGuard cs).find? isBracket = none := by
  unfold endGuard
  split <;> simp [isBracket]

theorem startsTag_endGuard (cs : List Char) : startsTag (endGuard cs) = false := by
  unfold endGuard
  split <;> rfl

theorem scan_endGuard (cs : List Char) : scan (endGuard cs) = (endGuard cs).map .char := by
  unfold endGuard
  split <;> simp [scan, leadingSlashes, tagBody?]

/-- The brackets of a protected text are those of the text. -/
theorem find?_escape (cs : List Char) : (escape cs).find? isBracket = cs.find? isBracket := by
  rw [escape_eq, List.find?_append, find?_guardTags, find?_endGuard, Option.or_none]

/-- A protected text leaves a tag open if the text does. -/
theorem leavesOpen_escape (cs : List Char) : leavesOpen (escape cs) = leavesOpen cs := by
  rw [escape_eq, leavesOpen_append_of_noBracket (startsTag_endGuard _) (find?_endGuard _),
    leavesOpen_guardTags]

theorem apart_escape {b : List Char} (hstarts : startsTag b = false)
    (hcloses : leavesOpen cs = true → b.find? isBracket ≠ some ']') : Apart (escape cs) b :=
  ⟨fun _ ↦ hstarts, leavesOpen_escape cs ▸ hcloses⟩

theorem scan_escape (cs : List Char) :
    scan (escape cs) = (scan cs).map .guarded ++ (endGuard (guardTags cs)).map .char := by
  have happart : Apart (guardTags cs) (endGuard (guardTags cs)) :=
    ⟨fun _ ↦ startsTag_endGuard _, fun _ ↦ by simp [find?_endGuard]⟩
  have hnone : tagBody? (afterSlashes (endGuard (guardTags cs))) = none := by
    unfold endGuard
    split <;> rfl
  rw [escape_eq, scan_append happart fun _ ↦ hnone, scan_guardTags, scan_endGuard]

/-- **No tag is active in a protected text.** -/
theorem isActive_of_mem_scan_escape {s : Segment} (h : s ∈ scan (escape cs)) :
    s.isActive = false := by
  rw [scan_escape] at h
  rcases List.mem_append.1 h with h | h
  · obtain ⟨t, -, rfl⟩ := List.mem_map.1 h
    cases t with
    | char c => rfl
    | tag n body => simp [Segment.guarded, Segment.isActive]
  · obtain ⟨c, -, rfl⟩ := List.mem_map.1 h
    rfl

end Organizer.Markup
