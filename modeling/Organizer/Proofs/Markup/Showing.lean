import Organizer.Console.Presentation
import Organizer.Proofs.Markup.Emoji
import Organizer.Proofs.Markup.Protecting

/-!
# What pieces show

Pieces without an active tag show a text of their own (`shown`), whatever tags are open around them
and whatever follows (`plainFrom?_inert`); only a backslash at their end might be lost to a bracket
that comes next. So what a text with markup shows is put together from the active tags and what
stands between them.

A protected text shows the text (`display_eq`), up to backslashes: one before a bracket that
opens no tag is left out, and a single one at the end stands twice. All other characters are always
there, in order (`filter_display`).
-/

namespace Organizer.Markup

variable {cs rest body : List Char} {c : Char} {openTags : List OpenTag}
  {segments following : List Segment}

/-- The text that pieces show when some tags are open; none if the markup is in error. -/
def plainFrom? (openTags : List OpenTag) (segments : List Segment) : Option (List Char) :=
  (piecesFrom? openTags segments).map textOf

/-- Without emoji a text shows what its pieces show. -/
theorem plain?_eq (cs : List Char) : plain? cs = plainFrom? [] (scan cs) := by
  have htext : textOf ∘ replaceCodes noEmoji = textOf :=
    funext fun ps ↦ textOf_replaceCodes (codeFree_noEmoji _)
  rw [plain?, pieces?, Option.map_map, htext, plainFrom?]

/-! ### Piece by piece -/

/-- A backslash vanishes before these pieces: they begin with a bracket that opens no tag. -/
def beginsBare (segments : List Segment) : Bool := segments.head? == some (.char '[')

theorem plainFrom?_nil (openTags : List OpenTag) :
    plainFrom? openTags [] = if openTags.all OpenTag.canStay then some [] else none := by
  rw [plainFrom?, piecesFrom?, ending]
  split
  · split <;> rfl
  · rfl

theorem plainFrom?_char (openTags : List OpenTag) (c : Char) (segments : List Segment) :
    plainFrom? openTags (.char c :: segments) =
      if c = '\\' ∧ beginsBare segments = true then plainFrom? openTags segments
      else (plainFrom? openTags segments).map (c :: ·) := by
  by_cases h : c = '\\' ∧ beginsBare segments = true
  · obtain ⟨rfl, hbare⟩ := h
    obtain ⟨tail, rfl⟩ := List.head?_eq_some_iff.1 (beq_iff_eq.1 hbare)
    rw [if_pos ⟨rfl, hbare⟩, plainFrom?, piecesFrom?, plainFrom?]
  · have hpieces : piecesFrom? openTags (.char c :: segments) =
        (piecesFrom? openTags segments).map (.char c :: ·) :=
      piecesFrom?.eq_3 openTags c segments fun tail hc hsegments ↦
        h ⟨hc, by rw [hsegments]; rfl⟩
    rw [if_neg h, plainFrom?, hpieces, plainFrom?, Option.map_map, Option.map_map]
    rfl

/-- The backslashes that are kept in front of a tag. -/
theorem textOf_kept (n : ℕ) : textOf (List.replicate n (.char '\\')) = List.replicate n '\\' := by
  rw [← List.map_replicate, textOf_map_char]

theorem plainFrom?_tag_odd {n : ℕ} (hn : n % 2 = 1) (openTags : List OpenTag) (body : List Char)
    (segments : List Segment) :
    plainFrom? openTags (.tag n body :: segments) =
      (plainFrom? openTags segments).map (List.replicate (n / 2) '\\' ++ bracketed body ++ ·) := by
  simp only [plainFrom?, piecesFrom?, if_pos hn, Option.map_map]
  congr 1
  funext ps
  simp only [Function.comp_apply, List.append_assoc, List.cons_append, textOf_append, textOf_kept,
    textOf_map_char, textOf_cons_of_char? (p := .seam) rfl]

theorem plainFrom?_tag_even {n : ℕ} (hn : n % 2 = 0) (openTags : List OpenTag) (body : List Char)
    (segments : List Segment) :
    plainFrom? openTags (.tag n body :: segments) =
      (openAfter? openTags body).bind fun openTags ↦
        (plainFrom? openTags segments).map (List.replicate (n / 2) '\\' ++ ·) := by
  simp only [plainFrom?, piecesFrom?, if_neg (by omega : ¬n % 2 = 1)]
  cases openAfter? openTags body with
  | none => rfl
  | some openTags =>
    simp only [Option.bind_eq_bind, Option.bind_some]
    cases piecesFrom? openTags segments with
    | none => rfl
    | some ps =>
      refine congrArg some ?_
      dsimp only
      rw [textOf_append, textOf_kept, textOf_cons_of_char? (p := .edge) rfl]

/-! ### Pieces without active tags -/

/-- The text that pieces show in which no tag is active. -/
def shown : List Segment → List Char
  | [] => []
  | .char c :: segments =>
    if c = '\\' ∧ beginsBare segments = true then shown segments else c :: shown segments
  | .tag slashes body :: segments =>
    List.replicate (slashes / 2) '\\' ++ bracketed body ++ shown segments

/-- **What pieces show in which no tag is active** does not depend on what is open, nor on what
follows, if that does not take a backslash away. -/
theorem plainFrom?_inert (h : ∀ s ∈ segments, s.isActive = false)
    (hseam : segments.getLast? = some (.char '\\') → beginsBare following = false)
    (openTags : List OpenTag) :
    plainFrom? openTags (segments ++ following) =
      (plainFrom? openTags following).map (shown segments ++ ·) := by
  induction segments with
  | nil => simp [shown]
  | cons s segments ih =>
    have hih := ih (fun t ht ↦ h t (List.mem_cons_of_mem s ht)) fun hlast ↦
      hseam (by rw [List.getLast?_cons, hlast]; rfl)
    rw [List.cons_append]
    cases s with
    | char c =>
      have hbare : c = '\\' → beginsBare (segments ++ following) = beginsBare segments := by
        rintro rfl
        cases segments with
        | nil => exact hseam rfl
        | cons t segments => rfl
      rw [plainFrom?_char, shown, hih]
      by_cases hlost : c = '\\' ∧ beginsBare segments = true
      · rw [if_pos hlost, if_pos ⟨hlost.1, (hbare hlost.1).trans hlost.2⟩]
      · rw [if_neg hlost, if_neg fun h ↦ hlost ⟨h.1, (hbare h.1).symm.trans h.2⟩, Option.map_map]
        rfl
    | tag n body =>
      have hn : n % 2 = 1 := by
        have hinactive : (n % 2 == 0) = false := h _ List.mem_cons_self
        have hne : n % 2 ≠ 0 := by simpa using hinactive
        omega
      rw [plainFrom?_tag_odd hn, hih, Option.map_map]
      simp only [shown, List.append_assoc]
      rfl

theorem plainFrom?_shown (h : ∀ s ∈ segments, s.isActive = false) :
    plainFrom? [] segments = some (shown segments) := by
  have hshown : plainFrom? [] (segments ++ []) = (plainFrom? [] []).map (shown segments ++ ·) :=
    plainFrom?_inert h (fun _ ↦ rfl) []
  simpa [plainFrom?_nil] using hshown

theorem shown_append {segments' : List Segment} (h : ∀ s ∈ segments, s.isActive = false)
    (h' : ∀ s ∈ segments', s.isActive = false)
    (hseam : segments.getLast? = some (.char '\\') → beginsBare segments' = false) :
    shown (segments ++ segments') = shown segments ++ shown segments' := by
  have hwhole : plainFrom? [] (segments ++ segments') = some (shown (segments ++ segments')) :=
    plainFrom?_shown (List.forall_mem_append.2 ⟨h, h'⟩)
  rw [plainFrom?_inert h hseam, plainFrom?_shown h', Option.map_some] at hwhole
  exact (Option.some.inj hwhole).symm

/-! ### Characters -/

/-- A text without an opening bracket consists of characters. -/
theorem scan_of_noOpening (h : '[' ∉ cs) : scan cs = cs.map .char := by
  induction cs using scan_induction with
  | nil => simp
  | tag n body rest => exact absurd (by simp [Segment.source, bracketed]) h
  | char c rest hnone ih =>
    rw [scan_char hnone, ih fun hmem ↦ h (List.mem_cons_of_mem c hmem), List.map_cons]

/-- A text without an opening bracket is shown as it is. -/
theorem shown_of_noOpening (h : '[' ∉ cs) : shown (cs.map .char) = cs := by
  induction cs with
  | nil => rfl
  | cons c cs ih =>
    have hrest : '[' ∉ cs := fun hmem ↦ h (List.mem_cons_of_mem c hmem)
    have hbare : beginsBare (cs.map .char) = false := by
      cases cs with
      | nil => rfl
      | cons d cs =>
        have hd : d ≠ '[' := fun hd ↦ hrest (hd ▸ List.mem_cons_self)
        simp [beginsBare, hd]
    rw [List.map_cons, shown, hbare, if_neg (by simp), ih hrest]

/-- A text without an opening bracket and without a backslash at its end stands by itself in front
of any other. -/
theorem scan_literal_append (h : '[' ∉ cs) (hlast : cs.getLast? ≠ some '\\') (rest : List Char) :
    scan (cs ++ rest) = cs.map .char ++ scan rest := by
  have happart : Apart cs rest :=
    ⟨fun hlast ↦ absurd (List.mem_of_getLast? hlast) h,
      fun hopen ↦ by simp [leavesOpen_of_noOpening h] at hopen⟩
  rw [scan_append happart fun hslash ↦ absurd hslash hlast, scan_of_noOpening h]

theorem plainFrom?_literal (h : '[' ∉ cs) (hlast : cs.getLast? ≠ some '\\')
    (openTags : List OpenTag) (rest : List Char) :
    plainFrom? openTags (scan (cs ++ rest)) =
      (plainFrom? openTags (scan rest)).map (cs ++ ·) := by
  rw [scan_literal_append h hlast, plainFrom?_inert, shown_of_noOpening h]
  · rintro s hs
    obtain ⟨c, -, rfl⟩ := List.mem_map.1 hs
    rfl
  · intro hslash
    rw [List.getLast?_map, Option.map_eq_some_iff] at hslash
    obtain ⟨c, hc, hslash⟩ := hslash
    cases hslash
    exact absurd hc hlast

/-! ### Protected texts -/

/-- What a protected text shows. -/
def display (cs : List Char) : List Char := shown (scan (escape cs))

theorem filter_slashes (n : ℕ) : (List.replicate n '\\').filter (· != '\\') = [] :=
  List.filter_replicate_of_neg (by decide)

/-- Pieces without active tags show all their characters but backslashes. -/
theorem filter_shown (h : ∀ s ∈ segments, s.isActive = false) :
    (shown segments).filter (· != '\\') = (segments.flatMap Segment.source).filter (· != '\\') := by
  induction segments with
  | nil => rfl
  | cons s segments ih =>
    have hih := ih fun t ht ↦ h t (List.mem_cons_of_mem s ht)
    rw [List.flatMap_cons, List.filter_append, ← hih]
    cases s with
    | char c =>
      rw [shown]
      split
      · rename_i hlost
        rw [hlost.1]
        rfl
      · rw [← List.singleton_append, List.filter_append]
        rfl
    | tag n body =>
      rw [shown, Segment.source, List.filter_append, List.filter_append, List.filter_append,
        filter_slashes, filter_slashes]

theorem filter_guardTags (cs : List Char) :
    (guardTags cs).filter (· != '\\') = cs.filter (· != '\\') := by
  induction cs using scan_induction with
  | nil => simp
  | tag n body rest h ih =>
    rw [guardTags_tag n h, List.filter_append, List.filter_append, ih, Segment.source,
      Segment.source, List.filter_append, List.filter_append, filter_slashes, filter_slashes]
  | char c rest h ih => rw [guardTags_char h, List.filter_cons, List.filter_cons, ih]

theorem filter_escape (cs : List Char) :
    (escape cs).filter (· != '\\') = cs.filter (· != '\\') := by
  have hend : (endGuard (guardTags cs)).filter (· != '\\') = [] := by
    unfold endGuard
    split <;> rfl
  rw [escape_eq, List.filter_append, filter_guardTags, hend, List.append_nil]

/-- **A protected text shows all characters of the text but backslashes**, in order. -/
theorem filter_display (cs : List Char) :
    (display cs).filter (· != '\\') = cs.filter (· != '\\') := by
  rw [display, filter_shown fun s ↦ isActive_of_mem_scan_escape, flatMap_source_scan, filter_escape]

/-- Is there a backslash that is taken for an escape: one before a bracket that opens no tag? -/
def hasLostSlash : List Char → Bool
  | [] => false
  | c :: cs => (c == '\\' && cs.head? == some '[' && (tagBody? cs).isNone) || hasLostSlash cs

theorem hasLostSlash_of_noOpening (h : '[' ∉ cs) : hasLostSlash cs = false := by
  induction cs with
  | nil => rfl
  | cons c cs ih =>
    obtain ⟨-, hcs⟩ := not_or.1 (mt List.mem_cons.2 h)
    have hhead : cs.head? ≠ some '[' := fun hhead ↦ hcs (List.mem_of_head? hhead)
    rw [hasLostSlash, beq_false_of_ne hhead, Bool.and_false, Bool.false_and, ih hcs]
    rfl

/-- Pieces begin with a bracket only if the text does, and there is no tag. -/
theorem tagBody?_of_beginsBare (h : beginsBare (scan cs) = true) :
    cs.head? = some '[' ∧ tagBody? cs = none := by
  cases cs using scan_induction with
  | nil => simp [beginsBare] at h
  | tag n body rest htag => simp [scan_tag n htag, beginsBare] at h
  | char c rest hnone =>
    obtain rfl : c = '[' := by simpa [scan_char hnone, beginsBare] using h
    rw [afterSlashes_of_ne (by decide)] at hnone
    exact ⟨rfl, hnone⟩

theorem beginsBare_of_tagBody? (h : (cs.head? == some '[' && (tagBody? cs).isNone) = true) :
    beginsBare (scan cs) = true := by
  rw [Bool.and_eq_true, beq_iff_eq, Option.isNone_iff_eq_none] at h
  obtain ⟨hhead, hnone⟩ := h
  obtain ⟨rest, rfl⟩ := List.head?_eq_some_iff.1 hhead
  rw [scan_char (by rwa [afterSlashes_of_ne (by decide)])]
  rfl

theorem beginsBare_map_guarded (segments : List Segment) :
    beginsBare (segments.map .guarded) = beginsBare segments := by
  rcases segments with - | ⟨c | ⟨n, body⟩, segments⟩ <;> rfl

/-- A text without the backslashes that are taken for escapes. -/
def withoutLostSlashes : List Char → List Char
  | [] => []
  | c :: cs =>
    if c == '\\' && cs.head? == some '[' && (tagBody? cs).isNone then withoutLostSlashes cs
    else c :: withoutLostSlashes cs

theorem withoutLostSlashes_cons_of_ne (h : c ≠ '\\') :
    withoutLostSlashes (c :: cs) = c :: withoutLostSlashes cs := by
  simp [withoutLostSlashes, h]

theorem withoutLostSlashes_append_of_noOpening (h : '[' ∉ cs) (hrest : rest.head? ≠ some '[') :
    withoutLostSlashes (cs ++ rest) = cs ++ withoutLostSlashes rest := by
  induction cs with
  | nil => rfl
  | cons c cs ih =>
    have hcs : '[' ∉ cs := fun hmem ↦ h (List.mem_cons_of_mem c hmem)
    have hhead : (cs ++ rest).head? ≠ some '[' := by
      cases cs with
      | nil => exact hrest
      | cons d cs => exact fun hd ↦ hcs (Option.some.inj hd ▸ List.mem_cons_self)
    rw [List.cons_append, withoutLostSlashes, beq_false_of_ne hhead, Bool.and_false,
      Bool.false_and, if_neg Bool.false_ne_true, ih hcs, List.cons_append]

/-- A backslash in front of a tag, or of other backslashes in front of one, is no escape. -/
theorem withoutLostSlashes_tag (n : ℕ) (h : IsTag body) (rest : List Char) :
    withoutLostSlashes ((Segment.tag n body).source ++ rest) =
      (Segment.tag n body).source ++ withoutLostSlashes rest := by
  induction n with
  | zero =>
    have hinside : '[' ∉ body := fun hmem ↦ absurd (h.noBracket _ hmem) (by decide)
    have hsource : (Segment.tag 0 body).source ++ rest = '[' :: (body ++ ']' :: rest) := by
      simp [Segment.source, bracketed]
    rw [hsource, withoutLostSlashes_cons_of_ne (by decide),
      withoutLostSlashes_append_of_noOpening hinside (by simp),
      withoutLostSlashes_cons_of_ne (by decide)]
    simp [Segment.source, bracketed]
  | succ n ih =>
    have hsource : (Segment.tag (n + 1) body).source ++ rest =
        '\\' :: ((Segment.tag n body).source ++ rest) := by
      rw [Segment.source, List.replicate_succ]
      rfl
    have hkept : (((Segment.tag n body).source ++ rest).head? == some '[' &&
        (tagBody? ((Segment.tag n body).source ++ rest)).isNone) = false := by
      cases n with
      | zero => rw [Segment.source, List.replicate_zero, List.nil_append, tagBody?_bracketed h,
          Option.isNone_some, Bool.and_false]
      | succ n => rfl
    rw [hsource, withoutLostSlashes, Bool.and_assoc, hkept, Bool.and_false,
      if_neg Bool.false_ne_true, ih, Segment.source, Segment.source, List.replicate_succ]
    rfl

/-- **Guarded tags are shown as they are**, and so are all characters but the backslashes that are
taken for escapes. -/
theorem shown_map_guarded (cs : List Char) :
    shown ((scan cs).map .guarded) = withoutLostSlashes cs := by
  induction cs using scan_induction with
  | nil => rw [scan_nil]; rfl
  | tag n body rest h ih =>
    have hhalf : (2 * n + 1) / 2 = n := by omega
    rw [scan_tag n h, List.map_cons, Segment.guarded, shown, hhalf, ih, withoutLostSlashes_tag n h]
    rfl
  | char c rest h ih =>
    rw [scan_char h, List.map_cons, Segment.guarded, shown, beginsBare_map_guarded,
      withoutLostSlashes, ih]
    refine ite_congr (propext ?_) (fun _ ↦ rfl) fun _ ↦ rfl
    rw [Bool.and_assoc, Bool.and_eq_true, beq_iff_eq, and_congr_right_iff]
    rintro rfl
    rw [afterSlashes_slash] at h
    exact ⟨fun hbare ↦ by simp [tagBody?_of_beginsBare hbare], beginsBare_of_tagBody?⟩

theorem withoutLostSlashes_eq_self (hlost : hasLostSlash cs = false) :
    withoutLostSlashes cs = cs := by
  induction cs with
  | nil => rfl
  | cons c cs ih =>
    obtain ⟨hc, hcs⟩ := Bool.or_eq_false_iff.1 hlost
    rw [withoutLostSlashes, hc, if_neg Bool.false_ne_true, ih hcs]

/-- **Where a backslash is left out, a text departs from what it was**: a bracket stands there. So
whatever follows, the two are the same only if no backslash is left out. -/
theorem withoutLostSlashes_append_eq_append {xs ys : List Char}
    (h : withoutLostSlashes cs ++ xs = cs ++ ys) : hasLostSlash cs = false ∧ xs = ys := by
  induction cs with
  | nil => exact ⟨rfl, h⟩
  | cons c cs ih =>
    rw [withoutLostSlashes] at h
    split at h
    · rename_i hlost
      obtain ⟨⟨hslash, hhead⟩, -⟩ := by simpa only [Bool.and_eq_true, beq_iff_eq] using hlost
      obtain ⟨cs, rfl⟩ := List.head?_eq_some_iff.1 hhead
      rw [withoutLostSlashes_cons_of_ne (by decide), hslash] at h
      exact absurd (List.head_eq_of_cons_eq h) (by decide)
    · rename_i hkept
      obtain ⟨hcs, hxs⟩ := ih (List.tail_eq_of_cons_eq h)
      exact ⟨Bool.or_eq_false_iff.2 ⟨Bool.eq_false_iff.2 hkept, hcs⟩, hxs⟩

/-- **What a protected text shows**: the text without the backslashes that are taken for escapes,
but with a second one if there is a single one at its end. -/
theorem display_eq (cs : List Char) :
    display cs = withoutLostSlashes cs ++ if endsInSingleSlash cs then ['\\'] else [] := by
  have hinactive : ∀ s ∈ scan (escape cs), s.isActive = false := fun s ↦
    isActive_of_mem_scan_escape
  rw [scan_escape] at hinactive
  have hend : shown ((endGuard (guardTags cs)).map .char) = endGuard (guardTags cs) ∧
      beginsBare ((endGuard (guardTags cs)).map .char) = false := by
    unfold endGuard
    split <;> exact ⟨rfl, rfl⟩
  obtain ⟨htags, hguard⟩ := List.forall_mem_append.1 hinactive
  rw [display, scan_escape, shown_append htags hguard fun _ ↦ hend.2, hend.1, shown_map_guarded,
    endGuard, endsInSingleSlash_guardTags]

/-- **A protected text shows the text** if no backslash in it is taken for an escape and there is no
single one at its end. -/
theorem display_eq_self (hlost : hasLostSlash cs = false) (hend : endsInSingleSlash cs = false) :
    display cs = cs := by
  rw [display_eq, withoutLostSlashes_eq_self hlost, hend, if_neg Bool.false_ne_true,
    List.append_nil]

/-! ### Protected texts in front of others -/

/-- Does the text begin with nothing that could act on what comes before it: no bracket, no
backslash, and nothing that can start a tag? -/
def beginsNeutral (cs : List Char) : Bool :=
  cs.head?.all fun c ↦ !isTagStart c && c != '[' && c != '\\'

theorem beginsNeutral_cons :
    beginsNeutral (c :: cs) = true ↔ isTagStart c = false ∧ c ≠ '[' ∧ c ≠ '\\' := by
  simp [beginsNeutral, and_assoc]

theorem startsTag_of_beginsNeutral (h : beginsNeutral cs = true) : startsTag cs = false := by
  cases cs with
  | nil => rfl
  | cons c cs => exact (beginsNeutral_cons.1 h).1

theorem tagBody?_of_beginsNeutral (h : beginsNeutral cs = true) :
    tagBody? (afterSlashes cs) = none := by
  cases cs with
  | nil => rfl
  | cons c cs =>
    obtain ⟨-, hbracket, hslash⟩ := beginsNeutral_cons.1 h
    rw [afterSlashes_of_ne hslash, tagBody?_of_ne hbracket]

theorem beginsBare_of_beginsNeutral (h : beginsNeutral cs = true) :
    beginsBare (scan cs) = false := by
  rw [Bool.eq_false_iff]
  intro hbare
  obtain ⟨rest, rfl⟩ := List.head?_eq_some_iff.1 (tagBody?_of_beginsBare hbare).1
  exact (beginsNeutral_cons.1 h).2.1 rfl

/-- **A protected text has its own pieces in front of another text** that begins neutral, if the
text leaves no tag open for it to close. -/
theorem scan_escape_append (hneutral : beginsNeutral rest = true)
    (hcloses : leavesOpen cs = true → rest.find? isBracket ≠ some ']') :
    scan (escape cs ++ rest) = scan (escape cs) ++ scan rest :=
  scan_append (apart_escape (startsTag_of_beginsNeutral hneutral) hcloses) fun _ ↦
    tagBody?_of_beginsNeutral hneutral

theorem plainFrom?_escape_append (hneutral : beginsNeutral rest = true)
    (hcloses : leavesOpen cs = true → rest.find? isBracket ≠ some ']')
    (openTags : List OpenTag) :
    plainFrom? openTags (scan (escape cs ++ rest)) =
      (plainFrom? openTags (scan rest)).map (display cs ++ ·) := by
  rw [scan_escape_append hneutral hcloses, display]
  exact plainFrom?_inert (fun s ↦ isActive_of_mem_scan_escape)
    (fun _ ↦ beginsBare_of_beginsNeutral hneutral) openTags

/-! ### Protected texts in front of a tag -/

/-- The number of backslashes at the end of a text. -/
def slashesAtEnd (cs : List Char) : ℕ := leadingSlashes cs.reverse

/-- A text without the backslashes at its end. -/
def beforeSlashes (cs : List Char) : List Char := (afterSlashes cs.reverse).reverse

theorem beforeSlashes_append (cs : List Char) :
    beforeSlashes cs ++ List.replicate (slashesAtEnd cs) '\\' = cs := by
  have h := congrArg List.reverse (replicate_append_afterSlashes cs.reverse)
  rwa [List.reverse_append, List.reverse_replicate, List.reverse_reverse] at h

theorem getLast?_beforeSlashes (cs : List Char) : (beforeSlashes cs).getLast? ≠ some '\\' := by
  rw [beforeSlashes, List.getLast?_reverse]
  intro h
  have hslash := List.head?_dropWhile_not (· == '\\') cs.reverse
  rw [← afterSlashes, h] at hslash
  simp at hslash

@[simp]
theorem slashesAtEnd_append_replicate (cs : List Char) (n : ℕ) :
    slashesAtEnd (cs ++ List.replicate n '\\') = n + slashesAtEnd cs := by
  rw [slashesAtEnd, slashesAtEnd, List.reverse_append, List.reverse_replicate,
    leadingSlashes_replicate]

@[simp]
theorem beforeSlashes_append_replicate (cs : List Char) (n : ℕ) :
    beforeSlashes (cs ++ List.replicate n '\\') = beforeSlashes cs := by
  rw [beforeSlashes, beforeSlashes, List.reverse_append, List.reverse_replicate,
    afterSlashes_replicate]

theorem beforeSlashes_eq_self (h : slashesAtEnd cs = 0) : beforeSlashes cs = cs := by
  have hwhole := beforeSlashes_append cs
  rwa [h, List.replicate_zero, List.append_nil] at hwhole

theorem slashesAtEnd_beforeSlashes (cs : List Char) : slashesAtEnd (beforeSlashes cs) = 0 := by
  have h := congrArg slashesAtEnd (beforeSlashes_append cs)
  rw [slashesAtEnd_append_replicate] at h
  omega

theorem endsInSingleSlash_eq (cs : List Char) :
    endsInSingleSlash cs = decide (slashesAtEnd cs = 1) := rfl

theorem slashesAtEnd_guardTags (cs : List Char) : slashesAtEnd (guardTags cs) = slashesAtEnd cs :=
  endSlashes_guardTags cs

/-- Backslashes at the end connect with nothing before them. -/
theorem apart_slashes (cs : List Char) (n : ℕ) : Apart cs (List.replicate n '\\') := by
  refine ⟨fun _ ↦ ?_, fun _ ↦ by simp [find?_slashes]⟩
  cases n <;> rfl

theorem tagBody?_slashes (n : ℕ) : tagBody? (afterSlashes (List.replicate n '\\')) = none := by
  have h : afterSlashes (List.replicate n '\\' ++ []) = [] := afterSlashes_replicate n []
  rw [List.append_nil] at h
  rw [h]
  rfl

theorem noOpening_slashes (n : ℕ) : '[' ∉ List.replicate n '\\' :=
  fun h ↦ absurd (List.eq_of_mem_replicate h) (by decide)

/-- To protect the tags leaves the backslashes at the end as they are. -/
theorem guardTags_append_slashes (cs : List Char) (n : ℕ) :
    guardTags (cs ++ List.replicate n '\\') = guardTags cs ++ List.replicate n '\\' := by
  have hslashes : guardTags (List.replicate n '\\') = List.replicate n '\\' := by
    rw [guardTags, scan_of_noOpening (noOpening_slashes n), List.flatMap_map]
    exact List.flatMap_singleton' _
  rw [guardTags, scan_append (apart_slashes cs n) fun _ ↦ tagBody?_slashes n, List.flatMap_append,
    ← guardTags, ← guardTags, hslashes]

theorem escape_eq_append_slashes (cs : List Char) :
    escape cs = guardTags (beforeSlashes cs) ++
      List.replicate (slashesAtEnd cs + if slashesAtEnd cs = 1 then 1 else 0) '\\' := by
  have hguard : endGuard (guardTags cs) =
      List.replicate (if slashesAtEnd cs = 1 then 1 else 0) '\\' := by
    rw [endGuard, endsInSingleSlash_guardTags, endsInSingleSlash_eq]
    by_cases h : slashesAtEnd cs = 1 <;> simp [h]
  have htags := guardTags_append_slashes (beforeSlashes cs) (slashesAtEnd cs)
  rw [beforeSlashes_append] at htags
  rw [escape_eq, hguard, htags, List.append_assoc, List.replicate_append_replicate]

/-- **To protect a text changes the backslashes at its end** only if there is a single one. -/
theorem slashesAtEnd_escape (cs : List Char) :
    slashesAtEnd (escape cs) = slashesAtEnd cs + if slashesAtEnd cs = 1 then 1 else 0 := by
  rw [escape_eq_append_slashes, slashesAtEnd_append_replicate, slashesAtEnd_guardTags,
    slashesAtEnd_beforeSlashes, Nat.add_zero]

theorem beforeSlashes_escape (cs : List Char) :
    beforeSlashes (escape cs) = guardTags (beforeSlashes cs) := by
  rw [escape_eq_append_slashes, beforeSlashes_append_replicate, beforeSlashes_eq_self]
  rw [slashesAtEnd_guardTags, slashesAtEnd_beforeSlashes]

/-- What a protected text shows before the backslashes at its end. -/
theorem shown_scan_beforeSlashes (cs : List Char) :
    shown (scan (beforeSlashes (escape cs))) = withoutLostSlashes (beforeSlashes cs) := by
  rw [beforeSlashes_escape, scan_guardTags, shown_map_guarded]

/-- A backslash at the end is taken for no escape. -/
theorem hasLostSlash_append_slashes (cs : List Char) (n : ℕ) :
    hasLostSlash (cs ++ List.replicate n '\\') = hasLostSlash cs := by
  induction cs with
  | nil => rw [List.nil_append, hasLostSlash_of_noOpening (noOpening_slashes n)]; rfl
  | cons c cs ih =>
    rw [List.cons_append, hasLostSlash, hasLostSlash, ih]
    cases cs with
    | nil =>
      have hhead : ((List.replicate n '\\').head? == some '[') = false := by cases n <;> rfl
      rw [List.nil_append, hhead, Bool.and_false, Bool.false_and]
      simp
    | cons d cs => rw [tagBody?_append (apart_slashes _ n) (List.cons_ne_nil d cs)]; rfl

theorem hasLostSlash_beforeSlashes (cs : List Char) :
    hasLostSlash (beforeSlashes cs) = hasLostSlash cs := by
  rw [← hasLostSlash_append_slashes _ (slashesAtEnd cs), beforeSlashes_append]

/-- The pieces before the backslashes at the end of a protected text are pieces of it. -/
theorem isActive_of_mem_scan_beforeSlashes {s : Segment}
    (h : s ∈ scan (beforeSlashes (escape cs))) : s.isActive = false := by
  have happend := scan_append (apart_slashes (beforeSlashes (escape cs)) (slashesAtEnd (escape cs)))
    fun _ ↦ tagBody?_slashes _
  rw [beforeSlashes_append] at happend
  exact isActive_of_mem_scan_escape (happend ▸ List.mem_append_left _ h)

/-- **A protected text in front of a tag** has its own pieces, up to the backslashes at its end:
those come to stand in front of the tag. -/
theorem scan_escape_tag (h : IsTag body) (cs rest : List Char) :
    scan (escape cs ++ (bracketed body ++ rest)) =
      scan (beforeSlashes (escape cs)) ++
        .tag (slashesAtEnd (escape cs)) body :: scan rest := by
  have hsource : escape cs ++ (bracketed body ++ rest) = beforeSlashes (escape cs) ++
      ((Segment.tag (slashesAtEnd (escape cs)) body).source ++ rest) := by
    rw [Segment.source, List.append_assoc, ← List.append_assoc (beforeSlashes _),
      beforeSlashes_append]
  have happart : Apart (beforeSlashes (escape cs))
      ((Segment.tag (slashesAtEnd (escape cs)) body).source ++ rest) :=
    ⟨fun _ ↦ startsTag_source _ _ _, fun _ ↦ by rw [find?_source]; decide⟩
  rw [hsource, scan_append happart fun hlast ↦ absurd hlast (getLast?_beforeSlashes _),
    scan_tag _ h]

end Organizer.Markup

/-! ### On the console -/

namespace Organizer.Console

/-- A response with markup is presented as the text that it shows. -/
theorem present?_eq_some {r : Response} {emoji : Markup.EmojiTable} {cs : List Char}
    (hcategory : r.category ≠ .clear) (hrows : r.rows = none) (hmarkup : r.markup = true)
    (hplain : Markup.plain? r.text.toList emoji = some cs) :
    present? r emoji = some (layOut cs) := by
  rw [present?, if_neg hcategory, hrows, hmarkup]
  show markupLines? r.text emoji = _
  rw [markupLines?, hplain, Option.map_some]

end Organizer.Console
