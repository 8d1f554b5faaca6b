import Mathlib.Data.List.Infix
import Organizer.Collection.Basic

/-!
# Looking for a text, letter case aside

A term is found in a text if the text in lower case contains the term in lower case (`Matches`), and
it is the whole text if the two are equal in lower case (`SameLetters`). Both are said here of texts
as they are stored, lone halves included: a half has no case, and a word ends at it (`lowerPoints`).

A search takes a text apart at its halves and looks at the runs between them one by one. That comes
to the same (`contains?_eq`), because a term has no halves: what it is found in lies in one run, and
the case of a run does not depend on what stands beyond its ends.
-/

namespace Organizer

namespace Text

open CodePoint

variable {α : Type} {l as bs : List α} {x : α}

/-! ### Pieces of a list -/

/-- A piece without some item ends before that item. -/
theorem prefix_of_prefix_append_cons (hx : x ∉ l) (h : l <+: as ++ x :: bs) : l <+: as := by
  rcases List.prefix_or_prefix_of_prefix h (List.prefix_append as (x :: bs)) with h' | ⟨m, rfl⟩
  · exact h'
  · cases m with
    | nil => rw [List.append_nil]
    | cons y m =>
      obtain ⟨rfl, -⟩ := List.cons_prefix_cons.1 ((List.prefix_append_right_inj as).1 h)
      exact absurd (List.mem_append_right as List.mem_cons_self) hx

/-- A piece without some item lies on one side of that item. -/
theorem infix_append_cons_iff (hx : x ∉ l) : l <:+: as ++ x :: bs ↔ l <:+: as ∨ l <:+: bs := by
  constructor
  · intro h
    induction as with
    | nil =>
      rcases List.infix_cons_iff.1 h with h | h
      · have hfront : l <+: [] ++ x :: bs := h
        exact .inl (prefix_of_prefix_append_cons hx hfront).isInfix
      · exact .inr h
    | cons a as ih =>
      rcases List.infix_cons_iff.1 h with h | h
      · have hfront : l <+: (a :: as) ++ x :: bs := h
        exact .inl (prefix_of_prefix_append_cons hx hfront).isInfix
      · exact (ih h).imp_left fun h ↦ h.trans (List.suffix_cons a as).isInfix
  · rintro (h | h)
    · exact h.trans (List.prefix_append as _).isInfix
    · exact (h.trans (List.suffix_cons x bs).isInfix).trans (List.suffix_append as _).isInfix

/-! ### Lower case -/

/-- The characters in front of the first lone half. -/
def firstRun : List CodePoint → List Char
  | .char c :: ps => c :: firstRun ps
  | _ => []

/-- Lower case with the characters before the current code point at hand, nearest first. A lone half
stays as it is, and nothing beyond it counts. -/
def lowerPointsAfter : List Char → List CodePoint → List CodePoint
  | _, [] => []
  | _, .half n :: ps => .half n :: lowerPointsAfter [] ps
  | before, .char c :: ps =>
    (if c = 'Σ' then
      if startsCased before && !startsCased (firstRun ps) then ['ς'] else ['σ']
    else lowerChar c).map .char ++ lowerPointsAfter (c :: before) ps

/-- The code points in lower case. -/
def lowerPoints (ps : List CodePoint) : List CodePoint := lowerPointsAfter [] ps

/-- The code points of a text without lone halves. -/
def points (s : String) : List CodePoint := s.toList.map .char

/-- Does a text contain a term, letter case aside? -/
def Matches (term : String) (ps : List CodePoint) : Prop :=
  lowerPoints (points term) <:+: lowerPoints ps

/-- Is a text a given one, letter case aside? -/
def SameLetters (name : String) (ps : List CodePoint) : Prop :=
  lowerPoints ps = lowerPoints (points name)

instance (term : String) (ps : List CodePoint) : Decidable (Matches term ps) :=
  inferInstanceAs (Decidable (_ <:+: _))

instance (name : String) (ps : List CodePoint) : Decidable (SameLetters name ps) :=
  inferInstanceAs (Decidable (_ = _))

theorem SameLetters.matches {name : String} {ps : List CodePoint} (h : SameLetters name ps) :
    Matches name ps := by
  rw [Matches, ← h]

theorem char_injective : Function.Injective CodePoint.char := fun _ _ ↦ CodePoint.char.inj

theorem firstRun_append (cs : List Char) (rest : List CodePoint) :
    firstRun (cs.map .char ++ rest) = cs ++ firstRun rest := by
  induction cs with
  | nil => rfl
  | cons c cs ih => exact congrArg (c :: ·) ih

/-- Does a letter end its word, between what stands behind it and, nearest first, before it? -/
def endsWord (before behind : List Char) : Bool := startsCased before && !startsCased behind

/-- The lower case of a letter in its word. -/
def lowerLetter (before : List Char) (c : Char) (behind : List Char) : List Char :=
  if c = 'Σ' then if endsWord before behind then ['ς'] else ['σ'] else lowerChar c

/-- The lower case of a piece of a run, with what stands behind it and, nearest first, in front of
it. -/
def lowerBetween (behind : List Char) : List Char → List Char → List Char
  | _, [] => []
  | before, c :: cs =>
    lowerLetter before c (cs ++ behind) ++ lowerBetween behind (c :: before) cs

/-- With nothing behind it, a piece is the rest of its text. -/
theorem lowerBetween_nil (before cs : List Char) :
    lowerBetween [] before cs = lowerAfter before cs := by
  induction cs generalizing before with
  | nil => rfl
  | cons c cs ih =>
    rw [lowerBetween, lowerAfter, ih, List.append_nil]
    rfl

/-- The case of characters depends on the run that they stand in, and on nothing beyond its ends. -/
theorem lowerPointsAfter_append (before cs : List Char) (rest : List CodePoint) :
    lowerPointsAfter before (cs.map .char ++ rest) =
      (lowerBetween (firstRun rest) before cs).map .char ++
        lowerPointsAfter (cs.reverse ++ before) rest := by
  induction cs generalizing before with
  | nil => rfl
  | cons c cs ih =>
    rw [List.map_cons, List.cons_append, lowerPointsAfter, firstRun_append, ih, lowerBetween,
      List.map_append, List.append_assoc, List.reverse_cons, List.append_assoc,
      List.singleton_append]
    rfl

theorem lowerPoints_map_char (cs : List Char) :
    lowerPoints (cs.map .char) = (lowerAfter [] cs).map .char := by
  have hrun : firstRun [] = [] := rfl
  have h := lowerPointsAfter_append [] cs []
  rwa [List.append_nil, lowerPointsAfter, List.append_nil, hrun, lowerBetween_nil] at h

theorem lowerPoints_points (s : String) : lowerPoints (points s) = points (lower s) := by
  rw [points, lowerPoints_map_char, points, lower, String.toList_ofList]

theorem lowerPoints_append_half (cs : List Char) (n : Fin 2048) (ps : List CodePoint) :
    lowerPoints (cs.map .char ++ .half n :: ps) =
      (lowerAfter [] cs).map .char ++ .half n :: lowerPoints ps := by
  rw [lowerPoints, lowerPointsAfter_append, ← lowerBetween_nil]
  rfl

theorem half_mem_lowerPointsAfter {n : Fin 2048} {ps : List CodePoint} (h : .half n ∈ ps)
    (before : List Char) : .half n ∈ lowerPointsAfter before ps := by
  induction ps generalizing before with
  | nil => exact absurd h List.not_mem_nil
  | cons p ps ih =>
    cases p with
    | half m =>
      rcases List.mem_cons.1 h with heq | h
      · rw [heq]
        exact List.mem_cons_self
      · exact List.mem_cons_of_mem _ (ih h [])
    | char c =>
      have hps : .half n ∈ ps := by simpa using h
      exact List.mem_append_right _ (ih hps (c :: before))

/-- A text with a lone half has not the letters of one without. -/
theorem not_sameLetters_of_half {n : Fin 2048} {ps : List CodePoint} (h : .half n ∈ ps)
    (name : String) : ¬ SameLetters name ps := by
  intro heq
  have hmem := half_mem_lowerPointsAfter h []
  rw [SameLetters, lowerPoints_points] at heq
  rw [show lowerPointsAfter [] ps = _ from heq, points] at hmem
  simp at hmem

/-- Texts without lone halves have the same letters if they are equal in lower case. -/
theorem sameLetters_map_char {name : String} {cs : List Char} :
    SameLetters name (cs.map .char) ↔ lower (String.ofList cs) = lower name := by
  rw [SameLetters, lowerPoints_points, lowerPoints_map_char, points,
    (List.map_injective_iff.2 char_injective).eq_iff, ← String.toList_inj]
  simp only [lower, String.toList_ofList]

theorem exists_map_char_or_half (ps : List CodePoint) :
    (∃ cs : List Char, ps = cs.map .char) ∨ ∃ n, .half n ∈ ps := by
  induction ps with
  | nil => exact .inl ⟨[], rfl⟩
  | cons p ps ih =>
    cases p with
    | half n => exact .inr ⟨n, List.mem_cons_self⟩
    | char c =>
      rcases ih with ⟨cs, rfl⟩ | ⟨n, hn⟩
      · exact .inl ⟨c :: cs, rfl⟩
      · exact .inr ⟨n, List.mem_cons_of_mem _ hn⟩

/-! ### Runs -/

/-- Characters belong to the run that follows them. -/
theorem runs_append {ps : List CodePoint} {r : List Char} {rs : List (List Char)}
    (h : runs ps = r :: rs) (cs : List Char) : runs (cs.map .char ++ ps) = (cs ++ r) :: rs := by
  induction cs with
  | nil => exact h
  | cons c cs ih =>
    rw [List.map_cons, List.cons_append, runs, ih]
    rfl

/-- Without halves, a term that is found is found in one run. -/
theorem map_char_infix_lowerPoints_iff (t : List Char) (ps : List CodePoint) :
    t.map CodePoint.char <:+: lowerPoints ps ↔ ∃ run ∈ runs ps, t <:+: lowerAfter [] run := by
  have hinfix (as : List Char) : t.map CodePoint.char <:+: as.map .char ↔ t <:+: as := by
    rw [List.infix_map_iff]
    constructor
    · rintro ⟨t', ht', heq⟩
      rwa [List.map_injective_iff.2 char_injective heq]
    · exact fun h ↦ ⟨t, h, rfl⟩
  -- `cs` is what has been read of the current run
  suffices h : ∀ cs : List Char, t.map CodePoint.char <:+: lowerPoints (cs.map .char ++ ps) ↔
      ∃ run ∈ runs (cs.map .char ++ ps), t <:+: lowerAfter [] run from h []
  induction ps with
  | nil =>
    intro cs
    rw [runs_append (show CodePoint.runs [] = [[]] from rfl), List.append_nil, List.append_nil,
      lowerPoints_map_char, hinfix]
    simp
  | cons p ps ih =>
    intro cs
    cases p with
    | half n =>
      have hmem : CodePoint.half n ∉ t.map CodePoint.char := by simp
      have hrest : t.map CodePoint.char <:+: lowerPoints ps ↔ _ := ih []
      rw [lowerPoints_append_half, infix_append_cons_iff hmem, hinfix, hrest,
        runs_append (show CodePoint.runs (.half n :: ps) = [] :: CodePoint.runs ps from rfl),
        List.append_nil]
      exact (List.exists_mem_cons_iff (t <:+: lowerAfter [] ·) cs (runs ps)).symm
    | char c =>
      have hnext : cs.map CodePoint.char ++ .char c :: ps = (cs ++ [c]).map .char ++ ps := by simp
      rw [hnext]
      exact ih (cs ++ [c])

end Text

open Text

/-- The code points of a value, if it is a text. -/
def Json.points? (v : Json) : Option (List CodePoint) := v.asScalar?.bind Scalar.points?

theorem Json.exists_points? {v : Json} (h : v.isText = true) : ∃ ps, v.points? = some ps := by
  cases v with
  | arr | obj => cases h
  | scalar x =>
    cases x with
    | text | torn => exact ⟨_, rfl⟩
    | null | bool | int | double => cases h

/-- Is a value a text that contains a term, letter case aside? -/
def Json.isFoundBy (term : String) (v : Json) : Bool := v.points?.any fun ps ↦ Matches term ps

/-- Is a value a text that is a given one, letter case aside? -/
def Json.hasLetters (name : String) (v : Json) : Bool :=
  v.points?.any fun ps ↦ SameLetters name ps

namespace Collection

/-- Is the name of a record a text that contains a term, letter case aside? -/
def isNamedLike (term : String) (r : Json) : Bool := (field? "name" r).any (Json.isFoundBy term)

/-- Is the name of a record a given one, letter case aside? -/
def isNamed (name : String) (r : Json) : Bool := (field? "name" r).any (Json.hasLetters name)

theorem isNamedLike_of_isNamed {name : String} {r : Json} (h : isNamed name r = true) :
    isNamedLike name r = true := by
  rw [isNamed, Option.any_eq_true] at h
  rw [isNamedLike, Option.any_eq_true]
  obtain ⟨v, hfield, h⟩ := h
  rw [Json.hasLetters, Option.any_eq_true] at h
  obtain ⟨ps, hps, h⟩ := h
  refine ⟨v, hfield, ?_⟩
  rw [Json.isFoundBy, hps, Option.any_some]
  exact decide_eq_true (of_decide_eq_true h).matches

/-- **A search finds a term in a text** exactly if it is there in lower case. -/
theorem contains?_eq {term : String} {v : Json} (h : v.isText = true) :
    contains? term v = some (v.isFoundBy term) := by
  obtain ⟨ps, hps⟩ := Json.exists_points? h
  rw [Json.isFoundBy, hps, Option.any_some]
  have hterm : lowerPoints (points term) = (lower term).toList.map .char := lowerPoints_points term
  cases v with
  | arr | obj => cases h
  | scalar x =>
    cases x with
    | null | bool | int | double => cases h
    | text s =>
      obtain rfl : points s = ps := Option.some.inj hps
      have hruns : CodePoint.runs (points s) = [s.toList] := by
        rw [points, ← List.append_nil (List.map _ _), runs_append rfl, List.append_nil]
      rw [contains?, Option.some.injEq, Bool.eq_iff_iff, decide_eq_true_iff, Matches, hterm,
        map_char_infix_lowerPoints_iff, hruns]
      simp only [containsIgnoringCase, occursIn_iff_infix, lower, String.toList_ofList,
        List.mem_singleton, exists_eq_left]
    | torn ps' =>
      obtain rfl : ps' = ps := Option.some.inj hps
      rw [contains?, Option.some.injEq, Bool.eq_iff_iff, decide_eq_true_iff, Matches, hterm,
        map_char_infix_lowerPoints_iff, List.any_eq_true]
      simp only [containsIgnoringCase, occursIn_iff_infix, lower, String.toList_ofList]

/-- A search by name judges every record with a name. -/
theorem bind_contains?_eq {term : String} {r name : Json} (hname : field? "name" r = some name)
    (h : name.isText = true) :
    (field? "name" r).bind (contains? term) = some (isNamedLike term r) := by
  rw [isNamedLike, hname, Option.bind_some, Option.any_some, contains?_eq h]

end Collection

end Organizer
