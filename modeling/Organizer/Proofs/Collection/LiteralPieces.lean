import Organizer.Proofs.Collection.DeletingContacts
import Organizer.Proofs.Collection.FirstMatch

/-!
# Looking for a piece of a text

A search for a piece of a text, just as it stands there, should find that text. It looks for the
piece in lower case in the text in lower case, though, and one letter has two lower cases: a capital
sigma that ends a word gets the final form. Where a piece is cut out of a word, its sigmas may come
to end one, or not to end one any more.

So a piece is found wherever each of its capital sigmas ends a word in the text exactly if it does
in the piece alone (`StandsIn`), in particular if there is none in it (`standsIn_of_infix`). No less
would do: elsewhere the piece and its place have different lower cases (`lowerBetween_eq_iff`), and
the note `ΑΣ` is not found by the letter `Σ` (`literal_pieces_not_always_found`).

What is found is then acted on, or something before it (`Selects.actsUpTo`), and a listing of
contacts has them all.
-/

namespace Organizer

open Organizer.Action Json

/-! ### Capital sigmas -/

namespace Text

variable {term : String} {ps : List CodePoint}

theorem length_lowerLetter (before before' : List Char) (c : Char) (behind behind' : List Char) :
    (lowerLetter before c behind).length = (lowerLetter before' c behind').length := by
  rw [lowerLetter, lowerLetter]
  split
  · split <;> split <;> rfl
  · rfl

theorem lowerLetter_eq_iff {before before' : List Char} {c : Char} {behind behind' : List Char} :
    lowerLetter before c behind = lowerLetter before' c behind' ↔
      (c = 'Σ' → endsWord before behind = endsWord before' behind') := by
  rw [lowerLetter, lowerLetter]
  by_cases hc : c = 'Σ'
  · rw [if_pos hc, if_pos hc]
    cases endsWord before behind <;> cases endsWord before' behind' <;> simp [hc]
  · rw [if_neg hc, if_neg hc]
    exact iff_of_true rfl fun h ↦ absurd h hc

/-- **Only sigmas tell where a piece stands.** The piece has the lower case that it has with less in
front of it and nothing behind it exactly if this changes the form of none of its sigmas. -/
theorem lowerBetween_eq_iff (behind before near cs : List Char) :
    lowerBetween behind (near ++ before) cs = lowerAfter near cs ↔
      ∀ cs₁ cs₂, cs = cs₁ ++ 'Σ' :: cs₂ →
        endsWord (cs₁.reverse ++ (near ++ before)) (cs₂ ++ behind) =
          endsWord (cs₁.reverse ++ near) cs₂ := by
  induction cs generalizing near with
  | nil => simp [lowerBetween]
  | cons c cs ih =>
    have hsplit : lowerBetween behind (near ++ before) (c :: cs) = lowerAfter near (c :: cs) ↔
        lowerLetter (near ++ before) c (cs ++ behind) = lowerLetter near c cs ∧
          lowerBetween behind (c :: near ++ before) cs = lowerAfter (c :: near) cs := by
      constructor
      · exact fun h ↦ List.append_inj h (length_lowerLetter ..)
      · rintro ⟨hletter, hrest⟩
        exact congrArg₂ (· ++ ·) hletter hrest
    rw [hsplit, lowerLetter_eq_iff, ih]
    constructor
    · rintro ⟨hletter, hrest⟩ cs₁ cs₂ heq
      cases cs₁ with
      | nil =>
        obtain ⟨rfl, rfl⟩ := List.cons.inj heq
        exact hletter rfl
      | cons c' cs₁ =>
        obtain ⟨rfl, rfl⟩ := List.cons.inj heq
        simpa using hrest cs₁ cs₂ rfl
    · intro h
      refine ⟨?_, fun cs₁ cs₂ heq ↦ ?_⟩
      · rintro rfl
        exact h [] cs rfl
      · simpa using h (c :: cs₁) cs₂ (congrArg (c :: ·) heq)

/-- The characters behind the last lone half, nearest first, if some stand in front of the text. -/
def runAfter : List Char → List CodePoint → List Char
  | before, [] => before
  | _, .half _ :: ps => runAfter [] ps
  | before, .char c :: ps => runAfter (c :: before) ps

theorem exists_lowerPointsAfter_append (near : List Char) (before ps : List CodePoint) :
    ∃ front, lowerPointsAfter near (before ++ ps) =
      front ++ lowerPointsAfter (runAfter near before) ps := by
  induction before generalizing near with
  | nil => exact ⟨[], rfl⟩
  | cons p before ih =>
    cases p with
    | half n =>
      obtain ⟨front, hfront⟩ := ih []
      exact ⟨.half n :: front, congrArg (CodePoint.half n :: ·) hfront⟩
    | char c =>
      obtain ⟨front, hfront⟩ := ih (c :: near)
      rw [List.cons_append, lowerPointsAfter, hfront, ← List.append_assoc]
      exact ⟨_, rfl⟩

/-- The term is a piece of the text, and each of its capital sigmas ends a word in the text exactly
if it does in the term. -/
def StandsIn (term : String) (ps : List CodePoint) : Prop :=
  ∃ before behind, ps = before ++ points term ++ behind ∧
    ∀ cs₁ cs₂, term.toList = cs₁ ++ 'Σ' :: cs₂ →
      endsWord (cs₁.reverse ++ runAfter [] before) (cs₂ ++ firstRun behind) =
        endsWord cs₁.reverse cs₂

/-- A piece stands where it has the lower case that it has alone. -/
theorem standsIn_of_lowerBetween (before behind : List CodePoint)
    (h : lowerBetween (firstRun behind) (runAfter [] before) term.toList =
      lowerAfter [] term.toList) : StandsIn term (before ++ points term ++ behind) :=
  ⟨before, behind, rfl, by simpa using (lowerBetween_eq_iff _ _ [] _).1 h⟩

/-- A piece without capital sigmas stands in a text. -/
theorem standsIn_of_infix (hsigma : 'Σ' ∉ term.toList) (h : points term <:+: ps) :
    StandsIn term ps := by
  obtain ⟨before, behind, rfl⟩ := h
  refine ⟨before, behind, rfl, fun cs₁ cs₂ heq ↦ ?_⟩
  rw [heq] at hsigma
  simp at hsigma

/-- **A piece is found where it stands.** -/
theorem StandsIn.matches (h : StandsIn term ps) : Matches term ps := by
  obtain ⟨before, behind, rfl, hsigmas⟩ := h
  have hlower : lowerBetween (firstRun behind) (runAfter [] before) term.toList =
      lowerAfter [] term.toList :=
    (lowerBetween_eq_iff _ _ [] _).2 (by simpa using hsigmas)
  obtain ⟨front, hfront⟩ := exists_lowerPointsAfter_append [] before (points term ++ behind)
  rw [points, lowerPointsAfter_append, hlower] at hfront
  refine ⟨front, lowerPointsAfter (term.toList.reverse ++ runAfter [] before) behind, ?_⟩
  rw [points, lowerPoints_map_char, lowerPoints, List.append_assoc, List.append_assoc, hfront]

end Text

open Text

/-- The value is a text that the term stands in. -/
def Json.HasPiece (term : String) (v : Json) : Prop := ∃ ps, v.points? = some ps ∧ StandsIn term ps

/-- The name of the record is a text that the term stands in. -/
def Collection.HasNamePiece (term : String) (r : Json) : Prop :=
  ∃ name, field? "name" r = some name ∧ name.HasPiece term

variable {d : Desk} {L : List Json} {term : String} {v r : Json} {i : ℕ}

theorem Json.HasPiece.isFoundBy (h : v.HasPiece term) : v.isFoundBy term = true := by
  obtain ⟨ps, hps, hstands⟩ := h
  rw [Json.isFoundBy, hps, Option.any_some]
  exact decide_eq_true hstands.matches

theorem Collection.HasNamePiece.isNamedLike (h : HasNamePiece term r) :
    isNamedLike term r = true := by
  obtain ⟨name, hfield, hname⟩ := h
  rw [Collection.isNamedLike, hfield, Option.any_some]
  exact hname.isFoundBy

/-! ### Up to a place -/

/-- An operation has its effect on the record at a place or on an earlier one, and does not report
that there is none. -/
structure ActsUpTo {ω : Type} (L : List Json) (i : ℕ) (effect : ℕ → Json → ω → Prop)
    (notFound : ω → Prop) (outcome : ω) : Prop where
  acts : ∃ j r, j ≤ i ∧ L[j]? = some r ∧ effect j r outcome
  found : ¬ notFound outcome

/-- **An operation that selects a record comes no further than any hit.** -/
theorem Selects.actsUpTo {ω : Type} {isHit : Json → Bool} {what : Sought} {part : EmptyPart}
    {refused : Refusal → ω} {effect : ℕ → Json → ω → Prop} {notFound : ω → Prop} {outcome : ω}
    (h : Selects L isHit what part term refused effect outcome) (hterm : allBlank term = false)
    (hr : L[i]? = some r) (hhit : isHit r = true)
    (hapart : ∀ j r, effect j r outcome → ¬ notFound outcome) :
    ActsUpTo L i effect notFound outcome := by
  obtain ⟨j, hj⟩ : ∃ j, L.findIdx? isHit = some j := by
    rw [← Option.isSome_iff_exists, List.findIdx?_isSome, List.any_eq_true]
    exact ⟨r, List.mem_of_getElem? hr, hhit⟩
  obtain ⟨hlt, -⟩ := List.findIdx?_eq_some_iff_getElem.1 hj
  have hget : L[j]? = some L[j] := List.getElem?_eq_getElem hlt
  have hleast : IsLeast (Store.passing isHit L) (j + 1) :=
    (Store.findIdx?_eq_some_iff_isLeast ..).1 (by rw [hj]; rfl)
  have hle : j + 1 ≤ i + 1 := hleast.2 ⟨i, r, rfl, hr, hhit⟩
  have heffect := h.found hterm j L[j] hget hleast
  exact ⟨⟨j, L[j], Nat.le_of_succ_le_succ hle, hget, heffect⟩, hapart j L[j] heffect⟩

namespace Notes

/-- Where a term stands in the note at a place, that note is meant, or an earlier one. -/
structure ActOnPiece (d : Desk) (notes : List Json) (term : String) (i : ℕ) : Prop where
  delete : ActsUpTo notes i (Deletes d notes)
    (·.1 = .error (.refused (.notFound .note term))) ((delete term).perform d)
  edit : ∀ editor, ActsUpTo notes i (Edits d notes editor)
    (·.2.1 = .error (.refused (.notFound .note term))) (editWith editor term d)

/-- An edited note is not reported missing. -/
theorem Edits.ne_notFound {editor : Editor} {note : Json}
    {outcome : List (ℕ × String) × Except Failure (List Response) × Desk}
    (h : Edits d L editor i note outcome) :
    outcome.2.1 ≠ .error (.refused (.notFound .note term)) := by
  cases hreply : editor (i + 1) note.display with
  | none => simp [h.cancelled hreply]
  | some text =>
    cases hblank : allBlank text with
    | true => simp [h.refused text hreply hblank]
    | false => exact (h.replaced text hreply hblank).answer_ne_refused _

theorem actOnPiece (hrecords : collection.records d = .ok L) (htexts : ∀ r ∈ L, r.isText = true)
    (hterm : allBlank term = false) (hr : L[i]? = some r) (hpiece : r.HasPiece term) :
    ActOnPiece d L term i where
  delete := (actOnFirst hrecords htexts term).delete.actsUpTo hterm hr hpiece.isFoundBy
    fun _ _ h ↦ h.answer_ne_refused _
  edit editor := ((actOnFirst hrecords htexts term).edit editor).actsUpTo hterm hr hpiece.isFoundBy
    fun _ _ h ↦ h.ne_notFound

end Notes

namespace Links

/-- Where a term stands in the name of the link at a place, that link is meant, or an earlier one. -/
structure ActOnPiece (d : Desk) (links : List Json) (term : String) (i : ℕ) : Prop where
  delete : ActsUpTo links i (Deletes d links)
    (·.1 = .error (.refused (.notFound .link term))) ((delete term).perform d)
  go : ActsUpTo links i (fun _ ↦ Opens d)
    (·.1 = .error (.refused (.notFound .link term))) ((go term).perform d)
  rename : ∀ newName, allBlank newName = false → ActsUpTo links i (Renames d links newName)
    (·.1 = .error (.refused (.notFound .link term))) ((rename term newName).perform d)

theorem actOnPiece (hrecords : collection.records d = .ok L)
    (haccepts : ∀ r ∈ L, accepts r = true) (hterm : allBlank term = false) (hr : L[i]? = some r)
    (hpiece : Collection.HasNamePiece term r) : ActOnPiece d L term i := by
  have hfirst := actOnFirst hrecords haccepts term
  constructor
  case delete =>
    refine hfirst.delete.actsUpTo hterm hr hpiece.isNamedLike ?_
    rintro j link ⟨fields, -, h⟩
    exact h.answer_ne_refused _
  case go =>
    refine hfirst.go.actsUpTo hterm hr hpiece.isNamedLike ?_
    rintro j link ⟨fields, address, -, -, h⟩
    simp [h]
  case rename =>
    intro newName hnewName
    refine (hfirst.rename newName hnewName).actsUpTo hterm hr hpiece.isNamedLike ?_
    rintro j link ⟨fields, fields', -, -, h⟩
    exact h.answer_ne_refused _

end Links

/-! ### Literal pieces -/

/-- **A record is found by each piece of its text or name**, wherever the piece keeps the form of its
capital sigmas. A note or a link is then meant, or an earlier one, whatever is done with it, and a
contact is listed. -/
theorem literal_pieces_found (d : Desk) (hterm : allBlank term = false) :
    (∀ notes, Notes.collection.records d = .ok notes → (∀ r ∈ notes, r.isText = true) →
      ∀ i note, notes[i]? = some note → note.HasPiece term → Notes.ActOnPiece d notes term i) ∧
    (∀ links, Links.collection.records d = .ok links → (∀ r ∈ links, Links.accepts r = true) →
      ∀ i link, links[i]? = some link → Collection.HasNamePiece term link →
        Links.ActOnPiece d links term i) ∧
    ∀ contacts, Contacts.collection.records d = .ok contacts →
      (∀ r ∈ contacts, Contacts.HasName r) →
      ∃ hits, Contacts.Finds d term hits ∧
        ∀ r ∈ contacts, Collection.HasNamePiece term r → r ∈ hits := by
  refine ⟨fun notes hrecords htexts i note hnote hpiece ↦ ?_,
    fun links hrecords haccepts i link hlink hpiece ↦ ?_,
    fun contacts hrecords hnames ↦ ⟨_, Contacts.finds hrecords hnames term, fun r hr hpiece ↦ ?_⟩⟩
  · exact Notes.actOnPiece hrecords htexts hterm hnote hpiece
  · exact Links.actOnPiece hrecords haccepts hterm hlink hpiece
  · exact List.mem_filter.2 ⟨hr, hpiece.isNamedLike⟩

/-- Three letters that end a word stand in a note and in two names, where they end one as well. -/
theorem literal_pieces_found_sigma :
    let notes : List Json := [.str "Σ", .str "ΟΔΟΣ 3"]
    let link : Json := .obj [("url", .str "http://a"), ("name", .str "Η ΟΔΟΣ")]
    let contact : Json := .obj [("name", .str "ΔΟΣ!"), ("info", .str "1")]
    let d := Desk.ofStore
      ⟨[("notes", .arr notes), ("links", .arr [link]), ("contacts", .arr [contact])], .memory⟩
    (Notes.collection.records d = .ok notes ∧ Links.collection.records d = .ok [link] ∧
      Contacts.collection.records d = .ok [contact]) ∧
      Notes.ActOnPiece d notes "ΔΟΣ" 1 ∧ Links.ActOnPiece d [link] "ΔΟΣ" 0 ∧
      ∃ hits, Contacts.Finds d "ΔΟΣ" hits ∧ contact ∈ hits := by
  intro notes link contact d
  have hterm : allBlank "ΔΟΣ" = false := by decide +kernel
  have hnotes : Notes.collection.records d = .ok notes := by decide +kernel
  have hlinks : Links.collection.records d = .ok [link] := by decide +kernel
  have hcontacts : Contacts.collection.records d = .ok [contact] := by decide +kernel
  have hnote : (Json.str "ΟΔΟΣ 3").HasPiece "ΔΟΣ" :=
    ⟨_, rfl, standsIn_of_lowerBetween (points "Ο") (points " 3") (by decide +kernel)⟩
  have hlink : Collection.HasNamePiece "ΔΟΣ" link :=
    ⟨.str "Η ΟΔΟΣ", rfl, _, rfl, standsIn_of_lowerBetween (points "Η Ο") [] (by decide +kernel)⟩
  have hcontact : Collection.HasNamePiece "ΔΟΣ" contact :=
    ⟨.str "ΔΟΣ!", rfl, _, rfl, standsIn_of_lowerBetween [] (points "!") (by decide +kernel)⟩
  have hspelled : Json.str "ΔΟΣ!" = Json.spelled (points "ΔΟΣ!") := by decide +kernel
  have hnames : ∀ r ∈ [contact], Contacts.HasName r :=
    List.forall_mem_singleton.2 ⟨_, _, rfl, congrArg some hspelled⟩
  obtain ⟨hnotesFound, hlinksFound, hcontactsFound⟩ := literal_pieces_found d hterm
  obtain ⟨hits, hfinds, hlisted⟩ := hcontactsFound [contact] hcontacts hnames
  exact ⟨⟨hnotes, hlinks, hcontacts⟩,
    hnotesFound notes hnotes (by decide) 1 _ rfl hnote,
    hlinksFound [link] hlinks (List.forall_mem_singleton.2 rfl) 0 _ rfl hlink,
    hits, hfinds, hlisted contact (List.mem_singleton_self contact) hcontact⟩

/-- **Not every piece is found.** The capital sigma of this note ends a word, and the term has none
that it could end. -/
theorem literal_pieces_not_always_found :
    ¬ ∀ (d : Desk) (notes : List Json) (term : String),
      Notes.collection.records d = .ok notes → (∀ r ∈ notes, r.isText = true) →
      allBlank term = false → ∀ note ∈ notes, ∀ ps, note.points? = some ps →
      points term <:+: ps →
      ((Notes.delete term).perform d).1 ≠ .error (.refused (.notFound .note term)) := by
  intro h
  let d := Desk.ofStore ⟨[("notes", .arr [.str "ΑΣ"])], .memory⟩
  refine h d [.str "ΑΣ"] "Σ" (by decide +kernel) (by decide) (by decide +kernel) (.str "ΑΣ")
    (List.mem_singleton_self _) (points "ΑΣ") rfl ?_ (by decide +kernel)
  exact ⟨points "Α", [], by decide⟩

end Organizer
