import Organizer.Proofs.App.Running
import Organizer.Proofs.Collection.Rewriting
import Organizer.Proofs.Text.Lowering

/-!
# The first record that matches

Notes and links are named by a piece of their text or name. Five operations begin with the same
search, and differ only in what they do at the place that it finds: a blank term is refused, one
that no record has is refused as well, and else the first record that has it is meant, and no other
(`Selects`). The place is counted from one and comes to be used for a reading and a writing of its
own. That all three mean the same record is proved once, of the search (`selects_of_find`).

To edit a note takes an editor. `Notes.editWith` keeps a record of what the editor is asked, and is
what a request to edit a note comes to (`App.perform_dispatchWith_of_editNote`).

What is found is changed in the mapping in any case. Where the mapping cannot be written out, the
operation does not answer (`not_always_acted_on`).
-/

namespace Organizer

open Organizer.Action Json Text

variable {d : Desk} {L : List Json} {term : String} {part : EmptyPart} {what : Sought}

/-! ### The search -/

/-- An operation that looks for a record: how it comes out, if it has an effect at the place of the
record that it finds. -/
structure Selects {ω : Type} (L : List Json) (isHit : Json → Bool) (what : Sought)
    (part : EmptyPart) (term : String) (refused : Refusal → ω) (effect : ℕ → Json → ω → Prop)
    (outcome : ω) : Prop where
  blank : allBlank term = true → outcome = refused (.empty part)
  notFound : allBlank term = false →
    (outcome = refused (.notFound what term) ↔ ∀ r ∈ L, isHit r = false)
  found : allBlank term = false → ∀ i r, L[i]? = some r →
    IsLeast (Store.passing isHit L) (i + 1) → effect i r outcome

namespace Collection

variable {c : Collection} {p : Store.Test} {isHit : Json → Bool}

/-- The search finds the first record that the test says yes to. -/
theorem find_of_records (hrecords : c.records d = .ok L) (hp : ∀ r ∈ L, p r = some (isHit r)) :
    c.find what part term p d =
      if allBlank term then .error (.refused (.empty part))
      else
        match L.findIdx? isHit with
        | some i => .ok (i + 1)
        | none => .error (.refused (.notFound what term)) := by
  have hlist : d.store.list c.key = .ok L := hrecords
  have hplace : d.store.findFirst c.key p = .ok ((L.findIdx? isHit).map (· + 1)) := by
    rw [Store.findFirst, hlist, ok_bind, Store.firstPlace_congr hp, ← Store.firstPlace_testOf]
    rfl
  rw [find, requireTerm, hplace]
  split
  · rfl
  · cases L.findIdx? isHit <;> rfl

/-- The record at the place that the search has found. -/
theorem recordAt_of_getElem? (hrecords : c.records d = .ok L) {i : ℕ} {r : Json}
    (hr : L[i]? = some r) : c.recordAt (i + 1) d = .ok r := by
  rw [recordAt, hrecords, ok_bind, Nat.add_sub_cancel, hr]
  rfl

/-- **An operation selects the record that its search finds**, if it is refused when the search is,
and has its effect at any place that the search may find. -/
theorem selects_of_find {ω : Type} {refused : Refusal → ω} {effect : ℕ → Json → ω → Prop}
    {outcome : ω} (hrecords : c.records d = .ok L) (hp : ∀ r ∈ L, p r = some (isHit r))
    (hrefused : ∀ reason, c.find what part term p d = .error (.refused reason) →
      outcome = refused reason)
    (heffect : ∀ i r, L[i]? = some r → c.find what part term p d = .ok (i + 1) →
      effect i r outcome)
    (hapart : ∀ i r reason, ¬ effect i r (refused reason)) :
    Selects L isHit what part term refused effect outcome := by
  have hfind : c.find what part term p d = _ := find_of_records hrecords hp
  constructor
  case blank =>
    intro hblank
    rw [if_pos hblank] at hfind
    exact hrefused _ hfind
  case notFound =>
    intro hterm
    rw [if_neg (by simp [hterm])] at hfind
    rw [← List.findIdx?_eq_none_iff]
    cases hidx : L.findIdx? isHit with
    | none =>
      rw [hidx] at hfind
      exact iff_of_true (hrefused _ hfind) rfl
    | some i =>
      rw [hidx] at hfind
      obtain ⟨hi, -⟩ := List.findIdx?_eq_some_iff_getElem.1 hidx
      -- there is an effect, and no effect is a refusal
      refine iff_of_false (fun heq ↦ ?_) (by simp)
      exact hapart i L[i] _ (heq ▸ heffect i L[i] (List.getElem?_eq_getElem hi) hfind)
  case found =>
    intro hterm i r hr hleast
    have hidx := (Store.findIdx?_eq_some_iff_isLeast isHit L (i + 1)).2 hleast
    obtain ⟨j, hj, hij⟩ := Option.map_eq_some_iff.1 hidx
    obtain rfl : j = i := Nat.succ_injective hij
    rw [if_neg (by simp [hterm]), hj] at hfind
    exact heffect j r hr hfind

end Collection

/-! ### Notes -/

namespace Notes

/-- A note is edited with the help of an editor: what the editor is asked, and what comes of it. -/
def editWith (editor : Editor) (term : String) (d : Desk) :
    List (ℕ × String) × Except Failure (List Response) × Desk :=
  match beginEdit term d with
  | .error e => ([], .error e, d)
  | .ok (place, text) => ([(place, text)], (finishEdit place (editor place text)).perform d)

/-- The note at a place has been deleted. -/
def Deletes (d : Desk) (notes : List Json) (i : ℕ) (note : Json)
    (outcome : Except Failure (List Response) × Desk) : Prop :=
  d.Rewrites collection (notes.eraseIdx i) (Response.reply
    ("Note " ++ Number.showNat (i + 1) ++ " deleted: \"" ++ note.display ++ "\"") .note
    note.isTorn) outcome

/-- The note at a place has been edited: the editor was asked once, for this note. No text leaves it
as it is, a blank one is refused, and any other takes its place. -/
structure Edits (d : Desk) (notes : List Json) (editor : Editor) (i : ℕ) (note : Json)
    (outcome : List (ℕ × String) × Except Failure (List Response) × Desk) : Prop where
  asked : outcome.1 = [(i + 1, note.display)]
  cancelled : editor (i + 1) note.display = none →
    outcome.2 = (.ok (Response.reply "Edit cancelled."), d)
  refused : ∀ text, editor (i + 1) note.display = some text → allBlank text = true →
    outcome.2 = (.error (.refused (.empty .record)), d)
  replaced : ∀ text, editor (i + 1) note.display = some text → allBlank text = false →
    d.Rewrites collection (notes.set i (.str text))
      (Response.reply ("Note " ++ Number.showNat (i + 1) ++ " saved.") .note) outcome.2

theorem deletes_of_find {i : ℕ} {note : Json} (hrecords : collection.records d = .ok L)
    (hnote : L[i]? = some note) (hfind : find term d = .ok (i + 1)) :
    Deletes d L i note ((delete term).perform d) := by
  obtain ⟨hi, rfl⟩ := List.getElem?_eq_some_iff.1 hnote
  have hdepth := (Store.depth_of_subset (List.eraseIdx_subset (k := i))).trans
    (Store.depth_of_list hrecords)
  rw [delete, perform_bind_of_ok (perform_get d), perform_ofExcept_bind_of_ok hfind]
  exact Desk.rewrites_onStore .notes hdepth
    (Store.perform_removeAt .notes hrecords hi) fun e _ ↦ rfl

theorem edits_of_find {i : ℕ} {note : Json} (editor : Editor)
    (hrecords : collection.records d = .ok L) (hnote : L[i]? = some note)
    (hfind : find term d = .ok (i + 1)) : Edits d L editor i note (editWith editor term d) := by
  have hbegin : beginEdit term d = .ok (i + 1, note.display) := by
    rw [beginEdit, hfind, ok_bind, Collection.recordAt_of_getElem? hrecords hnote]
    rfl
  obtain ⟨hi, rfl⟩ := List.getElem?_eq_some_iff.1 hnote
  rw [editWith, hbegin]
  constructor
  case asked => rfl
  case cancelled =>
    intro hnone
    dsimp only
    rw [hnone]
    rfl
  case refused =>
    intro text htext hblank
    have hblank' : Store.isBlankText (.str text) = true := hblank
    dsimp only
    rw [htext, finishEdit, Desk.onStore, Store.replaceAt, if_pos hblank']
    rfl
  case replaced =>
    intro text htext hblank
    have hshallow : (Json.str text).depth < Store.maxKept := show 0 < 490 by decide
    dsimp only
    rw [htext]
    exact Desk.rewrites_onStore .notes (Store.depth_set hrecords hshallow i)
      (Store.perform_replaceAt .notes hrecords hi hblank hshallow) fun e _ ↦ rfl

/-- What is done to the note that a term is found in first. Where there is none, the editor is not
asked either. -/
structure ActOnFirst (d : Desk) (notes : List Json) (term : String) : Prop where
  delete : Selects notes (isFoundBy term) .note .noteTerm term
    (fun reason ↦ (.error (.refused reason), d)) (Deletes d notes) ((delete term).perform d)
  edit : ∀ editor, Selects notes (isFoundBy term) .note .noteTerm term
    (fun reason ↦ ([], .error (.refused reason), d)) (Edits d notes editor) (editWith editor term d)

theorem actOnFirst (hrecords : collection.records d = .ok L) (htexts : ∀ r ∈ L, r.isText = true)
    (term : String) : ActOnFirst d L term := by
  have hjudged : ∀ r ∈ L, holds term r = some (isFoundBy term r) := fun r hr ↦
    Collection.contains?_eq (htexts r hr)
  constructor
  case delete =>
    refine Collection.selects_of_find hrecords hjudged (fun reason (hfind : find term d = _) ↦ ?_)
      (fun i note hnote hfind ↦ deletes_of_find hrecords hnote hfind)
      fun i note reason h ↦ h.ne_refused _ _ rfl
    rw [Notes.delete, perform_bind_of_ok (perform_get d), perform_ofExcept_bind_of_error hfind]
  case edit =>
    intro editor
    refine Collection.selects_of_find hrecords hjudged (fun reason (hfind : find term d = _) ↦ ?_)
      (fun i note hnote hfind ↦ edits_of_find editor hrecords hnote hfind)
      fun i note reason h ↦ by cases h.asked
    have hbegin : beginEdit term d = .error (.refused reason) := by
      rw [beginEdit, hfind]
      rfl
    rw [editWith, hbegin]

end Notes

/-- **A request to edit a note is what comes of editing it with an editor**; a refusal is
reported. -/
theorem App.perform_dispatchWith_of_editNote {words : List String} (app : App) (editor : Editor)
    (hwords : Request.ofWords words = .ok (.editNote term)) :
    (dispatchWith editor words).perform app =
      (match (Notes.editWith editor term app.desk).2.1 with
        | .error (.refused reason) => .ok [.ofRefusal reason]
        | outcome => outcome,
      { app with desk := (Notes.editWith editor term app.desk).2.2 }) := by
  have hview : (view (Notes.beginEdit term)).perform app =
      (Notes.beginEdit term app.desk, app) := by
    rw [view, perform_bind_of_ok (perform_get app), perform_ofExcept]
  rw [dispatchWith, perform_bind, dispatch, perform_reporting, hwords, Notes.editWith]
  dsimp only
  rw [carryOut, perform_bind, hview]
  rcases Notes.beginEdit term app.desk with (reason | -) | ⟨place, text⟩
  · rfl
  · rfl
  · simp only [perform_pure, complete, finish, perform_reporting, resume, onDesk, perform_within]
    rcases (Notes.finishEdit place (editor place text)).perform app.desk with ⟨(_ | _) | _, _⟩ <;>
      rfl

/-! ### Links -/

namespace Links

/-- The link at a place has been deleted. -/
def Deletes (d : Desk) (links : List Json) (i : ℕ) (link : Json)
    (outcome : Except Failure (List Response) × Desk) : Prop :=
  ∃ fields : Fields, link = .obj fields ∧ d.Rewrites collection (links.eraseIdx i)
    (Response.reply ("Link deleted: \"" ++ nameOf fields ++ "\"") .link
      (Collection.tornField "name" (.obj fields)))
    outcome

/-- The link at a place has been given a name, and has kept its other fields. -/
def Renames (d : Desk) (links : List Json) (newName : String) (i : ℕ) (link : Json)
    (outcome : Except Failure (List Response) × Desk) : Prop :=
  ∃ fields fields' : Fields, link = .obj fields ∧ fields.ChangesOnly "name" (.str newName) fields' ∧
    d.Rewrites collection (links.set i (.obj fields'))
      (Response.reply
        ("Link renamed from \"" ++ nameOf fields ++ "\" to \"" ++ newName ++ "\".") .link
        (Collection.tornField "name" (.obj fields)))
      outcome

/-- The address of the link has been opened, once, and nothing has changed. -/
def Opens (d : Desk) (link : Json) (outcome : Except Failure (List Response) × Desk) : Prop :=
  ∃ (fields : Fields) (address : Json), link = .obj fields ∧ fields.get? "url" = some address ∧
    outcome = (.ok (Response.reply ("Opening \"" ++ nameOf fields ++ "\"...") .link
      (Collection.tornField "name" (.obj fields))), { d with opened := d.opened ++ [address] })

/-- A link has a name and an address. -/
theorem exists_fields {link : Json} (h : accepts link = true) :
    ∃ (fields : Fields) (name address : Json), link = .obj fields ∧ fields.get? "name" = some name ∧
      name.isText = true ∧ fields.get? "url" = some address := by
  cases link with
  | scalar | arr => cases h
  | obj fields =>
    obtain ⟨hname, haddress⟩ := Bool.and_eq_true_iff.1 h
    obtain ⟨name, hname, htext⟩ := Collection.exists_get? hname
    obtain ⟨address, haddress, -⟩ := Collection.exists_get? haddress
    exact ⟨fields, name, address, rfl, hname, htext, haddress⟩

/-- A search for links judges all of them. -/
theorem nameHolds_eq {link : Json} (h : accepts link = true) :
    nameHolds term link = some (Collection.isNamedLike term link) := by
  obtain ⟨fields, name, -, rfl, hname, htext, -⟩ := exists_fields h
  refine Collection.bind_contains?_eq ?_ htext
  rw [Collection.field?, asFields?, Option.bind_eq_bind, Option.bind_some, hname]
  rfl

variable {i : ℕ} {link : Json} (hrecords : collection.records d = .ok L)
  (haccepts : ∀ r ∈ L, accepts r = true)
include hrecords haccepts

theorem deletes_of_find (hlink : L[i]? = some link) (hfind : find term d = .ok (i + 1)) :
    Deletes d L i link ((delete term).perform d) := by
  obtain ⟨fields, -, -, rfl, -⟩ := exists_fields (haccepts link (List.mem_of_getElem? hlink))
  obtain ⟨hi, hget⟩ := List.getElem?_eq_some_iff.1 hlink
  have hdepth := (Store.depth_of_subset (List.eraseIdx_subset (k := i))).trans
    (Store.depth_of_list hrecords)
  have hremove := Store.perform_removeAt .links hrecords hi
  rw [hget] at hremove
  refine ⟨fields, rfl, ?_⟩
  rw [delete, perform_bind_of_ok (perform_get d), perform_ofExcept_bind_of_ok hfind]
  exact Desk.rewrites_onStore .links hdepth hremove fun e _ ↦ rfl

omit haccepts in
theorem fieldsAt_of_getElem? {fields : Fields} (hlink : L[i]? = some (.obj fields)) :
    fieldsAt (i + 1) d = .ok fields := by
  rw [fieldsAt, Collection.recordAt_of_getElem? hrecords hlink]
  rfl

theorem renames_of_find {newName : String} (hnewName : allBlank newName = false)
    (hlink : L[i]? = some link) (hfind : find term d = .ok (i + 1)) :
    Renames d L newName i link ((rename term newName).perform d) := by
  have hmem := List.mem_of_getElem? hlink
  obtain ⟨fields, -, -, rfl, -⟩ := exists_fields (haccepts link hmem)
  obtain ⟨hi, -⟩ := List.getElem?_eq_some_iff.1 hlink
  have hfields : fieldsAt (i + 1) d = .ok fields := fieldsAt_of_getElem? hrecords hlink
  have hdepth : (obj (fields.set "name" (.str newName))).depth < Store.maxKept :=
    (depth_set_scalar fields "name" (.text newName)).trans_lt (Store.depth_lt_of_mem hrecords hmem)
  refine ⟨fields, _, rfl, fields.changesOnly_set "name" (.str newName), ?_⟩
  rw [rename, hnewName, if_neg Bool.false_ne_true, perform_bind_of_ok (perform_get d),
    perform_ofExcept_bind_of_ok hfind, perform_ofExcept_bind_of_ok hfields]
  exact Desk.rewrites_onStore .links (Store.depth_set hrecords hdepth i)
    (Store.perform_replaceAt .links hrecords hi rfl hdepth) fun e _ ↦ rfl

theorem opens_of_find (hlink : L[i]? = some link) (hfind : find term d = .ok (i + 1)) :
    Opens d link ((go term).perform d) := by
  obtain ⟨fields, -, address, rfl, -, -, haddress⟩ :=
    exists_fields (haccepts link (List.mem_of_getElem? hlink))
  have hfields : fieldsAt (i + 1) d = .ok fields := fieldsAt_of_getElem? hrecords hlink
  refine ⟨fields, address, rfl, haddress, ?_⟩
  -- the list is read once more before the search
  rw [go, perform_bind_of_ok (perform_get d), perform_ofExcept_bind_of_ok hrecords,
    perform_ofExcept_bind_of_ok hfind, perform_ofExcept_bind_of_ok hfields, haddress]
  rfl

/-- What is done to the link whose name a term is found in first. A blank new name is refused before
the search. -/
structure ActOnFirst (d : Desk) (links : List Json) (term : String) : Prop where
  delete : Selects links (Collection.isNamedLike term) .link .linkTerm term
    (fun reason ↦ (.error (.refused reason), d)) (Deletes d links) ((delete term).perform d)
  go : Selects links (Collection.isNamedLike term) .link .linkTerm term
    (fun reason ↦ (.error (.refused reason), d)) (fun _ ↦ Opens d) ((go term).perform d)
  rename_blank : ∀ newName, allBlank newName = true →
    (rename term newName).perform d = (.error (.refused (.empty .newName)), d)
  rename : ∀ newName, allBlank newName = false →
    Selects links (Collection.isNamedLike term) .link .linkTerm term
      (fun reason ↦ (.error (.refused reason), d)) (Renames d links newName)
      ((rename term newName).perform d)

theorem actOnFirst (term : String) : ActOnFirst d L term := by
  have hjudged : ∀ r ∈ L, nameHolds term r = some (Collection.isNamedLike term r) := fun r hr ↦
    nameHolds_eq (haccepts r hr)
  constructor
  case delete =>
    refine Collection.selects_of_find hrecords hjudged (fun reason (hfind : find term d = _) ↦ ?_)
      (fun i link hlink hfind ↦ deletes_of_find hrecords haccepts hlink hfind) ?_
    · rw [Links.delete, perform_bind_of_ok (perform_get d), perform_ofExcept_bind_of_error hfind]
    · rintro i link reason ⟨fields, rfl, h⟩
      exact h.ne_refused _ _ rfl
  case go =>
    refine Collection.selects_of_find hrecords hjudged (fun reason (hfind : find term d = _) ↦ ?_)
      (fun i link hlink hfind ↦ opens_of_find hrecords haccepts hlink hfind) ?_
    · rw [Links.go, perform_bind_of_ok (perform_get d), perform_ofExcept_bind_of_ok hrecords,
        perform_ofExcept_bind_of_error hfind]
    · rintro i link reason ⟨fields, address, rfl, -, h⟩
      cases h
  case rename_blank =>
    intro newName hblank
    rw [Links.rename, hblank, if_pos rfl, perform_refuse]
  case rename =>
    intro newName hnewName
    refine Collection.selects_of_find hrecords hjudged (fun reason (hfind : find term d = _) ↦ ?_)
      (fun i link hlink hfind ↦ renames_of_find hrecords haccepts hnewName hlink hfind) ?_
    · rw [Links.rename, hnewName, if_neg Bool.false_ne_true, perform_bind_of_ok (perform_get d),
        perform_ofExcept_bind_of_error hfind]
    · rintro i link reason ⟨fields, fields', rfl, -, h⟩
      exact h.ne_refused _ _ rfl

end Links

/-! ### The first match -/

/-- **What is named by a term is the first record that has the term**, whatever is done with it: a
note is named by its text, and a link by its name. -/
theorem first_match_acted_on (d : Desk) :
    (∀ notes, Notes.collection.records d = .ok notes → (∀ r ∈ notes, r.isText = true) →
      ∀ term, Notes.ActOnFirst d notes term) ∧
    ∀ links, Links.collection.records d = .ok links → (∀ r ∈ links, Links.accepts r = true) →
      ∀ term, Links.ActOnFirst d links term :=
  ⟨fun _ hrecords htexts ↦ Notes.actOnFirst hrecords htexts,
    fun _ hrecords haccepts ↦ Links.actOnFirst hrecords haccepts⟩

/-- The second of three notes is the first with milk in it, and of two links with the letter s in
their names the first is renamed. -/
theorem first_match_acted_on_milk :
    let notes : List Json :=
      [.scalar (.torn [.char 'm', .half 0]), .str "Buy milk", .str "MORE MILK"]
    let links : List Json := [.obj [("url", .str "http://s"), ("name", .str "x")],
      .obj [("url", .str "http://a"), ("name", .str "Straße"), ("tags", .arr [])],
      .obj [("url", .str "http://b"), ("name", .str "strasse")]]
    let d := Desk.ofStore ⟨[("notes", .arr notes), ("links", .arr links)], .memory⟩
    (Notes.collection.records d = .ok notes ∧ ∀ r ∈ notes, r.isText = true) ∧
      (Links.collection.records d = .ok links ∧ ∀ r ∈ links, Links.accepts r = true) ∧
      Notes.Deletes d notes 1 (.str "Buy milk") ((Notes.delete "MiLK").perform d) ∧
      Links.Renames d links "street" 1 (.obj [("url", .str "http://a"), ("name", .str "Straße"),
        ("tags", .arr [])]) ((Links.rename "STRA" "street").perform d) := by
  intro notes links d
  have hnotes : Notes.collection.records d = .ok notes := by decide +kernel
  have htexts : ∀ r ∈ notes, r.isText = true := by decide
  have hlinks : Links.collection.records d = .ok links := by decide +kernel
  have haccepts : ∀ r ∈ links, Links.accepts r = true := by decide +kernel
  have hmilk : IsLeast (Store.passing (isFoundBy "MiLK") notes) 2 :=
    (Store.findIdx?_eq_some_iff_isLeast ..).1 (by decide +kernel)
  have hstreet : IsLeast (Store.passing (Collection.isNamedLike "STRA") links) 2 :=
    (Store.findIdx?_eq_some_iff_isLeast ..).1 (by decide +kernel)
  obtain ⟨hnote, hlink⟩ := first_match_acted_on d
  exact ⟨⟨hnotes, htexts⟩, ⟨hlinks, haccepts⟩,
    (hnote notes hnotes htexts "MiLK").delete.found (by decide +kernel) 1 _ rfl hmilk,
    ((hlink links hlinks haccepts "STRA").rename "street" (by decide +kernel)).found
      (by decide +kernel) 1 _ rfl hstreet⟩

/-- **What is found is not always answered for.** A note is not, where a lone half of a pair stands
anywhere in the file; and no link is opened where one of them is nested too deep to be handed
out. -/
theorem not_always_acted_on :
    (¬ ∀ (d : Desk) (notes : List Json) (term : String),
      d.store.entries.get? Notes.collection.key = some (.arr notes) →
      (∀ r ∈ notes, r.isText = true) → allBlank term = false → (∃ r ∈ notes, isFoundBy term r) →
      ∃ answer, ((Notes.delete term).perform d).1 = .ok answer) ∧
    ¬ ∀ (d : Desk) (links : List Json) (term : String),
      d.store.entries.get? Links.collection.key = some (.arr links) →
      (∀ r ∈ links, Links.accepts r = true) → allBlank term = false →
      (∃ r ∈ links, Collection.isNamedLike term r) →
      ∃ answer, ((Links.go term).perform d).1 = .ok answer := by
  constructor
  · intro h
    let notes : List Json := [.scalar (.torn [.half 0]), .str "a"]
    obtain ⟨answer, hanswer⟩ := h (Desk.ofStore ⟨[("notes", .arr notes)], .file []⟩) notes "a"
      (by decide +kernel) (by decide) (by decide +kernel) ⟨.str "a", by decide, by decide +kernel⟩
    have hfails : ((Notes.delete "a").perform
        (Desk.ofStore ⟨[("notes", .arr notes)], .file []⟩)).1 = .error .unexpected := by
      decide +kernel
    exact absurd (hfails.symm.trans hanswer) (by simp)
  · intro h
    let link : Json := .obj [("name", .str "a"), ("url", .str "http://a"),
      ("tags", Store.nested Store.maxKept)]
    let d := Desk.ofStore ⟨[("links", .arr [link])], .memory⟩
    have hdeep : Store.maxKept < (arr [link]).depth := by
      simp only [link, depth, depthOfItems, depthOfFields, Store.depth_nested]
      omega
    have hrecords : Links.collection.records d = .error .unexpected :=
      Store.list_of_depth rfl hdeep
    obtain ⟨answer, hanswer⟩ := h d [link] "a" rfl (List.forall_mem_singleton.2 rfl)
      (by decide +kernel) ⟨link, List.mem_singleton_self link, rfl⟩
    rw [Links.go, perform_bind_of_ok (perform_get d), perform_ofExcept_bind_of_error hrecords]
      at hanswer
    cases hanswer

end Organizer
