import Mathlib.Data.List.TakeWhile
import Organizer.Markup.Segment

/-!
# How a text falls into tags and characters

A tag is at the front of a text if and only if the text goes on, after its bracket, with a character
that can start a tag and if the first bracket after that one closes (`tagBody?_cons`). So only the
first character and the first bracket of what follows an opening bracket matter, and from this it is
seen where two texts that are put together do not influence each other (`Apart`): the second does
not start like a tag after a bracket, and it does not close a tag that the first has left open. Then
the pieces of the whole are those of its parts (`scan_append`), unless backslashes at the end of the
first come to stand before a tag of the second.

A text is taken apart by `scan_induction`, tag by tag and character by character.
-/

namespace Organizer.Markup

variable {a b cs rest body : List Char} {c : Char}

/-! ### Brackets -/

/-- Is the character an opening or a closing bracket? -/
def isBracket (c : Char) : Bool := c == '[' || c == ']'

/-- Does the text start like what stands in a tag? -/
def startsTag (cs : List Char) : Bool := cs.head?.any isTagStart

theorem startsTag_append (h : a ≠ []) (b : List Char) : startsTag (a ++ b) = startsTag a := by
  cases a with
  | nil => exact absurd rfl h
  | cons c a => rfl

theorem startsTag_append_of_not (hb : startsTag b = false) (a : List Char) :
    startsTag (a ++ b) = startsTag a := by
  cases a with
  | nil => exact hb
  | cons c a => rfl

theorem isBracket_of_isTagStart (h : isTagStart c = true) : isBracket c = false := by
  rw [Bool.eq_false_iff]
  intro hbracket
  rcases Bool.or_eq_true_iff.1 hbracket with hc | hc <;>
    · rw [beq_iff_eq.1 hc] at h
      exact absurd h (by decide)

theorem drop_length_takeWhile (p : Char → Bool) (cs : List Char) :
    cs.drop (cs.takeWhile p).length = cs.dropWhile p := by
  have h : (cs.takeWhile p ++ cs.dropWhile p).drop (cs.takeWhile p).length = cs.dropWhile p :=
    List.drop_left
  rwa [List.takeWhile_append_dropWhile] at h

/-! ### A tag at the front -/

/-- What stands between the brackets of a tag. -/
structure IsTag (body : List Char) : Prop where
  starts : startsTag body = true
  noBracket : ∀ c ∈ body, isBracket c = false

instance : Decidable (IsTag body) :=
  decidable_of_iff (startsTag body = true ∧ body.all (!isBracket ·) = true)
    ⟨fun h ↦ ⟨h.1, by simpa using h.2⟩, fun h ↦ ⟨h.starts, by simpa using h.noBracket⟩⟩

theorem IsTag.ne_nil (h : IsTag body) : body ≠ [] := by
  rintro rfl
  exact Bool.false_ne_true h.starts

/-- **A tag is found by what comes first after its bracket**: a character that can start it, and of
all brackets a closing one. -/
theorem tagBody?_cons (cs : List Char) :
    tagBody? ('[' :: cs) =
      if startsTag cs = true ∧ cs.find? isBracket = some ']' then
        some (cs.takeWhile (!isBracket ·))
      else none := by
  have hinside : (fun d : Char ↦ d != '[' && d != ']') = (!isBracket ·) := by
    funext d
    simp [isBracket, bne]
  cases cs with
  | nil => simp [tagBody?, startsTag]
  | cons c rest =>
    by_cases hc : isTagStart c = true
    · have hbracket := isBracket_of_isTagStart hc
      have hstarts : startsTag (c :: rest) = true := hc
      have hfind : (c :: rest).find? isBracket = (rest.dropWhile (!isBracket ·)).head? := by
        rw [List.find?_cons_of_neg (by simp [hbracket]), List.find?_eq_head?_dropWhile_not]
      rw [tagBody?, if_pos hc, hinside, hfind, List.takeWhile_cons_of_pos (by simp [hbracket])]
      simp only [drop_length_takeWhile, hstarts, true_and]
      cases rest.dropWhile (!isBracket ·) with
      | nil => simp
      | cons d after => by_cases hd : d = ']' <;> simp [hd]
    · simp [tagBody?, startsTag, hc]

theorem tagBody?_cons_eq_none :
    tagBody? ('[' :: cs) = none ↔ ¬(startsTag cs = true ∧ cs.find? isBracket = some ']') := by
  rw [tagBody?_cons]
  split <;> simp_all

theorem tagBody?_of_ne (h : c ≠ '[') : tagBody? (c :: cs) = none := by
  rw [tagBody?.eq_def]
  split
  · simp_all
  · rfl

theorem tagBody?_bracketed (h : IsTag body) (rest : List Char) :
    tagBody? (bracketed body ++ rest) = some body := by
  have hstarts : startsTag (body ++ ']' :: rest) = true := by
    rw [startsTag_append h.ne_nil, h.starts]
  have hnone : body.find? isBracket = none := List.find?_eq_none.2 fun c hc ↦ by
    simp [h.noBracket c hc]
  have hinside : ∀ c ∈ body, (!isBracket c) = true := fun c hc ↦ by simp [h.noBracket c hc]
  have hcs : bracketed body ++ rest = '[' :: (body ++ ']' :: rest) := by simp [bracketed]
  rw [hcs, tagBody?_cons, if_pos ⟨hstarts, by simp [hnone, isBracket]⟩,
    List.takeWhile_append_of_pos hinside]
  simp [isBracket]

/-- **What is found is a tag**, and it stands at the front. -/
theorem exists_of_tagBody? (h : tagBody? cs = some body) :
    IsTag body ∧ ∃ rest, cs = bracketed body ++ rest := by
  cases cs with
  | nil => cases h
  | cons c rest =>
    by_cases hc : c = '['
    · subst hc
      rw [tagBody?_cons] at h
      split at h
      · rename_i htag
        cases h
        obtain ⟨hstarts, hclosed⟩ := htag
        obtain ⟨-, inside, after, rfl, hinside⟩ := List.find?_eq_some_iff_append.1 hclosed
        have hbody : (inside ++ ']' :: after).takeWhile (!isBracket ·) = inside := by
          rw [List.takeWhile_append_of_pos hinside]
          simp [isBracket]
        rw [hbody]
        refine ⟨⟨?_, fun c hc ↦ by simpa using hinside c hc⟩, after, by simp [bracketed]⟩
        by_cases hempty : inside = []
        · subst hempty
          exact absurd (show isTagStart ']' = true from hstarts) (by decide)
        · rwa [startsTag_append hempty] at hstarts
      · cases h
    · rw [tagBody?_of_ne hc] at h
      cases h

/-! ### Backslashes in front -/

/-- A text without the backslashes at its front. -/
def afterSlashes (cs : List Char) : List Char := cs.dropWhile (· == '\\')

theorem drop_leadingSlashes (cs : List Char) : cs.drop (leadingSlashes cs) = afterSlashes cs :=
  drop_length_takeWhile _ cs

@[simp]
theorem afterSlashes_slash (cs : List Char) : afterSlashes ('\\' :: cs) = afterSlashes cs := rfl

theorem afterSlashes_of_ne (h : c ≠ '\\') : afterSlashes (c :: cs) = c :: cs := by
  simp [afterSlashes, h]

@[simp]
theorem afterSlashes_replicate (n : ℕ) (cs : List Char) :
    afterSlashes (List.replicate n '\\' ++ cs) = afterSlashes cs := by
  induction n with
  | zero => rfl
  | succ n ih => rw [List.replicate_succ, List.cons_append, afterSlashes_slash, ih]

@[simp]
theorem leadingSlashes_replicate (n : ℕ) (cs : List Char) :
    leadingSlashes (List.replicate n '\\' ++ cs) = n + leadingSlashes cs := by
  rw [leadingSlashes, List.takeWhile_append_of_pos (by simp), List.length_append,
    List.length_replicate, leadingSlashes]

@[simp]
theorem afterSlashes_bracketed (body rest : List Char) :
    afterSlashes (bracketed body ++ rest) = bracketed body ++ rest := by
  rw [bracketed, List.cons_append, List.cons_append, afterSlashes_of_ne (by decide)]

theorem replicate_append_afterSlashes (cs : List Char) :
    List.replicate (leadingSlashes cs) '\\' ++ afterSlashes cs = cs := by
  have hslashes : cs.takeWhile (· == '\\') = List.replicate (leadingSlashes cs) '\\' :=
    List.eq_replicate_iff.2 ⟨rfl, fun c hc ↦ by simpa using List.mem_takeWhile_imp hc⟩
  rw [← hslashes]
  exact List.takeWhile_append_dropWhile

/-! ### Pieces -/

/-- A piece as it stands in a text. -/
def Segment.source : Segment → List Char
  | .char c => [c]
  | .tag slashes body => List.replicate slashes '\\' ++ bracketed body

@[simp]
theorem scan_nil : scan [] = [] := by simp [scan]

theorem scan_cons (c : Char) (cs : List Char) :
    scan (c :: cs) =
      match tagBody? (afterSlashes (c :: cs)) with
      | some body => .tag (leadingSlashes (c :: cs)) body ::
          scan (cs.drop (leadingSlashes (c :: cs) + body.length + 1))
      | none => .char c :: scan cs := by
  rw [← drop_leadingSlashes]
  exact scan.eq_2 c cs

/-- A character is by itself if no tag stands at the front, behind backslashes. -/
theorem scan_char (h : tagBody? (afterSlashes (c :: cs)) = none) :
    scan (c :: cs) = .char c :: scan cs := by
  rw [scan_cons, h]

theorem afterSlashes_source (n : ℕ) (body rest : List Char) :
    afterSlashes ((Segment.tag n body).source ++ rest) = bracketed body ++ rest := by
  rw [Segment.source, List.append_assoc, afterSlashes_replicate, afterSlashes_bracketed]

theorem leadingSlashes_source (n : ℕ) (body rest : List Char) :
    leadingSlashes ((Segment.tag n body).source ++ rest) = n := by
  rw [Segment.source, List.append_assoc, leadingSlashes_replicate]
  simp [bracketed, leadingSlashes]

theorem length_source (n : ℕ) (body : List Char) :
    (Segment.tag n body).source.length = n + body.length + 1 + 1 := by
  simp [Segment.source, bracketed]
  omega

/-- The front of a text in which a tag is found. -/
theorem eq_source_append {n : ℕ} (hn : leadingSlashes (c :: cs) = n)
    (hrest : afterSlashes (c :: cs) = bracketed body ++ rest) :
    c :: cs = (Segment.tag n body).source ++ rest ∧ cs.drop (n + body.length + 1) = rest := by
  have hsource : c :: cs = (Segment.tag n body).source ++ rest := by
    rw [Segment.source, List.append_assoc, ← hrest, ← hn, replicate_append_afterSlashes]
  refine ⟨hsource, ?_⟩
  rw [← List.drop_succ_cons (a := c), hsource, ← length_source, List.drop_left]

/-- A tag is a piece, with the backslashes in front of it. -/
theorem scan_tag (n : ℕ) (h : IsTag body) (rest : List Char) :
    scan ((Segment.tag n body).source ++ rest) = .tag n body :: scan rest := by
  have hslashes := leadingSlashes_source n body rest
  have hafter := afterSlashes_source n body rest
  cases htext : (Segment.tag n body).source ++ rest with
  | nil => simp [Segment.source, bracketed] at htext
  | cons c cs =>
    rw [htext] at hslashes hafter
    rw [scan_cons, hafter, tagBody?_bracketed h, hslashes]
    dsimp only
    rw [(eq_source_append hslashes hafter).2]

/-- To take a text apart: there is a tag at its front, or a character that is by itself. -/
@[elab_as_elim]
theorem scan_induction {motive : List Char → Prop} (nil : motive [])
    (tag : ∀ n body rest, IsTag body → motive rest →
      motive ((Segment.tag n body).source ++ rest))
    (char : ∀ c rest, tagBody? (afterSlashes (c :: rest)) = none → motive rest →
      motive (c :: rest)) (cs : List Char) : motive cs := by
  induction cs using scan.induct with
  | case1 => exact nil
  | case2 c cs slashes body hbody ih =>
    rw [drop_leadingSlashes] at hbody
    obtain ⟨htag, rest, hrest⟩ := exists_of_tagBody? hbody
    obtain ⟨hsource, hdrop⟩ := eq_source_append rfl hrest
    rw [hdrop] at ih
    exact hsource ▸ tag _ body rest htag ih
  | case3 c cs slashes hnone ih =>
    rw [drop_leadingSlashes] at hnone
    exact char c cs hnone ih

/-- Nothing is lost. -/
theorem flatMap_source_scan (cs : List Char) : (scan cs).flatMap Segment.source = cs := by
  induction cs using scan_induction with
  | nil => simp
  | tag n body rest h ih => rw [scan_tag n h, List.flatMap_cons, ih]
  | char c rest h ih => rw [scan_char h, List.flatMap_cons, ih]; rfl

/-! ### Texts put together -/

/-- Does the text leave a tag open? Then its last bracket is an opening one, and what follows that
starts like a tag. -/
def leavesOpen : List Char → Bool
  | [] => false
  | c :: cs => (c == '[' && startsTag cs && (cs.find? isBracket).isNone) || leavesOpen cs

theorem leavesOpen_append (a : List Char) (h : leavesOpen b = true) :
    leavesOpen (a ++ b) = true := by
  induction a with
  | nil => exact h
  | cons c a ih => rw [List.cons_append, leavesOpen, ih, Bool.or_true]

/-- Only what comes after a bracket matters. -/
theorem leavesOpen_append_of_bracket (a : List Char) (h : (b.find? isBracket).isSome = true) :
    leavesOpen (a ++ b) = leavesOpen b := by
  induction a with
  | nil => rfl
  | cons c a ih =>
    have hsome : ((a ++ b).find? isBracket).isNone = false := by
      rw [List.find?_append]
      cases a.find? isBracket <;> simp_all
    rw [List.cons_append, leavesOpen, hsome, Bool.and_false, Bool.false_or, ih]

theorem leavesOpen_of_noOpening (h : '[' ∉ cs) : leavesOpen cs = false := by
  induction cs with
  | nil => rfl
  | cons c cs ih =>
    obtain ⟨hc, hcs⟩ := not_or.1 (mt List.mem_cons.2 h)
    rw [leavesOpen, beq_false_of_ne (Ne.symm hc), Bool.false_and, Bool.false_and, Bool.false_or]
    exact ih hcs

/-- What follows without a bracket does not matter. -/
theorem leavesOpen_append_of_noBracket (hstarts : startsTag b = false)
    (hb : b.find? isBracket = none) (a : List Char) : leavesOpen (a ++ b) = leavesOpen a := by
  induction a with
  | nil => exact leavesOpen_of_noOpening fun hmem ↦ List.find?_eq_none.1 hb '[' hmem (by decide)
  | cons c a ih =>
    rw [List.cons_append, leavesOpen, leavesOpen, ih, startsTag_append_of_not hstarts,
      List.find?_append, hb, Option.or_none]

/-- No tag reaches from one text into the next: what follows neither starts like a tag after a
bracket, nor does it close a tag that is left open. -/
structure Apart (a b : List Char) : Prop where
  starts : a.getLast? = some '[' → startsTag b = false
  closes : leavesOpen a = true → b.find? isBracket ≠ some ']'

theorem Apart.of_append (h : Apart (cs ++ a) b) : Apart a b :=
  ⟨fun hlast ↦ h.starts (by rw [List.getLast?_append, hlast]; rfl),
    fun hopen ↦ h.closes (leavesOpen_append cs hopen)⟩

/-- What follows does not change the tag at the front. -/
theorem tagBody?_append (h : Apart a b) (hne : a ≠ []) : tagBody? (a ++ b) = tagBody? a := by
  cases a with
  | nil => exact absurd rfl hne
  | cons c a =>
    rcases ne_or_eq c '[' with hc | rfl
    · rw [List.cons_append, tagBody?_of_ne hc, tagBody?_of_ne hc]
    have hstarts : startsTag (a ++ b) = startsTag a := by
      by_cases hempty : a = []
      · rw [hempty, List.nil_append, h.starts (by rw [hempty]; rfl)]
        rfl
      · exact startsTag_append hempty b
    rw [List.cons_append, tagBody?_cons, tagBody?_cons, hstarts, List.find?_append]
    -- a bracket in the first text decides; without one, the first bracket of the second would
    cases hfind : a.find? isBracket with
    | none =>
      have hnot : ¬(startsTag a = true ∧ b.find? isBracket = some ']') := by
        rintro ⟨hstarts, hcloses⟩
        exact h.closes (by simp [leavesOpen, hstarts, hfind]) hcloses
      rw [Option.none_or, if_neg hnot, if_neg (by simp)]
    | some d =>
      obtain ⟨hd, before, after, rfl, hbefore⟩ := List.find?_eq_some_iff_append.1 hfind
      rw [Option.some_or, List.append_assoc, List.takeWhile_append_of_pos hbefore,
        List.takeWhile_append_of_pos hbefore, List.cons_append,
        List.takeWhile_cons_of_neg (by simp [hd]), List.takeWhile_cons_of_neg (by simp [hd])]

/-- **Texts that no tag connects have the pieces of both**, unless a tag of the second gets
backslashes from the first. -/
theorem scan_append (h : Apart a b)
    (hslash : a.getLast? = some '\\' → tagBody? (afterSlashes b) = none) :
    scan (a ++ b) = scan a ++ scan b := by
  induction a using scan_induction with
  | nil => simp
  | tag n body rest htag ih =>
    have hih := ih h.of_append fun hlast ↦ hslash (by rw [List.getLast?_append, hlast]; rfl)
    rw [List.append_assoc, scan_tag n htag, scan_tag n htag, hih, List.cons_append]
  | char c rest hnone ih =>
    have hrest : Apart rest b := (show Apart ([c] ++ rest) b from h).of_append
    have hih := ih hrest fun hlast ↦ hslash (by rw [List.getLast?_cons, hlast]; rfl)
    -- the character is by itself in the whole, too: no tag comes to the front
    have hnone' : tagBody? (afterSlashes (c :: rest ++ b)) = none := by
      by_cases hslashes : afterSlashes (c :: rest) = []
      · -- the backslashes of the first text come before the second one
        have hlast : (c :: rest).getLast (List.cons_ne_nil c rest) = '\\' := by
          simpa using List.dropWhile_eq_nil_iff.1 hslashes _ (List.getLast_mem _)
        rw [afterSlashes, List.dropWhile_append, ← afterSlashes, hslashes]
        exact hslash (by rw [List.getLast?_eq_some_getLast (List.cons_ne_nil c rest), hlast])
      · have happart : Apart (afterSlashes (c :: rest)) b := by
          rw [← replicate_append_afterSlashes (c :: rest)] at h
          exact h.of_append
        have happend : afterSlashes (c :: rest ++ b) = afterSlashes (c :: rest) ++ b := by
          rw [afterSlashes, List.dropWhile_append, ← afterSlashes,
            if_neg (by simpa using hslashes)]
        rw [happend, tagBody?_append happart hslashes, hnone]
    rw [List.cons_append] at hnone' ⊢
    rw [scan_char hnone', scan_char hnone, hih, List.cons_append]

end Organizer.Markup
