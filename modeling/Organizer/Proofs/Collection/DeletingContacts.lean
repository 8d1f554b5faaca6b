import Organizer.Proofs.Collection.Rewriting
import Organizer.Proofs.Text.Lowering

/-!
# Deleting contacts of a name

A deletion takes all contacts whose name is the given one, letter case aside, and leaves the others
as they are and in order. So there is nothing left to delete under the same name, and a second
deletion is refused (`Contacts.DeletesAll.again`), also where the first one could not be answered.

A deletion compares texts, and a search looks at the runs of a text between lone halves. Both are
said of the code points in lower case, where the contacts that a deletion takes are seen to be among
those that a search lists (`Contacts.DeletesAll.removed`).

A search lists all contacts that it finds or none: if the details of one of them are no text and
cannot be shown, it fails (`Contacts.Finds`).
-/

namespace Organizer

open Organizer.Action Json Text

/-- A text with a lone half is torn. -/
theorem Scalar.ofPoints_of_half {n : Fin 2048} {ps : List CodePoint} (h : .half n ∈ ps) :
    ofPoints ps = .torn ps := by
  cases hcs : ps.mapM CodePoint.char? with
  | none => rw [ofPoints, hcs]
  | some cs =>
    have hpoints := points?_ofPoints ps
    rw [ofPoints, hcs] at hpoints
    rw [← Option.some.inj hpoints] at h
    simp at h

namespace Contacts

variable {d : Desk} {L : List Json} {name term : String} {r : Json}

/-! ### Names -/

/-- The record is an object with a text for a name. -/
def HasName (r : Json) : Prop :=
  ∃ (fields : Fields) (ps : List CodePoint), r = .obj fields ∧
    fields.get? "name" = some (Json.spelled ps)

theorem HasName.exists_field? (h : HasName r) :
    ∃ ps, Collection.field? "name" r = some (Json.spelled ps) := by
  obtain ⟨fields, ps, rfl, hget⟩ := h
  refine ⟨ps, ?_⟩
  rw [Collection.field?, asFields?, Option.bind_eq_bind, Option.bind_some, hget]
  rfl

/-- Can the details of a contact be shown? If they are a text they can. -/
def showsInfo (r : Json) : Bool := (Collection.field? "info" r).all Json.isShowable

/-- A contact has a line if its details can be shown. -/
theorem HasName.line_cases (h : HasName r) :
    (showsInfo r = true → ∃ text, line r = .ok text) ∧
      (showsInfo r = false → line r = .error .unexpected) := by
  obtain ⟨fields, ps, rfl, hname⟩ := h
  have hshown : Collection.shownField fields "name" = .ok (Json.spelled ps).display := by
    rw [Collection.shownField, hname]
    exact Collection.shown_eq_ok (isShowable_of_isText (isText_ofPoints ps))
  rw [line, hshown, ok_bind, showsInfo, Collection.field?, asFields?, Option.bind_eq_bind,
    Option.bind_some, Collection.shownField]
  cases fields.get? "info" with
  | none => exact ⟨fun _ ↦ ⟨_, rfl⟩, fun hinfo ↦ absurd hinfo.symm Bool.false_ne_true⟩
  | some info =>
    rw [Option.map_some, Option.getD_some]
    constructor <;> intro hinfo
    · rw [Collection.shown_eq_ok hinfo]
      exact ⟨_, rfl⟩
    · rw [Collection.shown_eq_error hinfo]
      rfl

/-- A deletion judges every contact with a name. -/
theorem isNamed_eq (h : HasName r) : isNamed name r = some (Collection.isNamed name r) := by
  obtain ⟨ps, hfield⟩ := h.exists_field?
  have hletters : Collection.isNamed name r = decide (SameLetters name ps) := by
    rw [Collection.isNamed, hfield, Option.any_some, hasLetters, points?, spelled, asScalar?,
      Option.bind_some, Scalar.points?_ofPoints, Option.any_some]
  rw [isNamed, hfield, hletters, spelled]
  rcases exists_map_char_or_half ps with ⟨cs, rfl⟩ | ⟨n, hn⟩
  · rw [Scalar.ofPoints_map_char, Option.some.injEq, beq_eq_decide]
    exact decide_eq_decide.2 sameLetters_map_char.symm
  · rw [Scalar.ofPoints_of_half hn, Option.some.injEq]
    exact (decide_eq_false (not_sameLetters_of_half hn name)).symm

/-- A search judges every contact with a name. -/
theorem nameHolds_eq (h : HasName r) :
    nameHolds term r = some (Collection.isNamedLike term r) := by
  obtain ⟨ps, hfield⟩ := h.exists_field?
  exact Collection.bind_contains?_eq hfield (isText_ofPoints ps)

/-! ### Searching -/

/-- The answer to a search: a line for each contact that was found. -/
def listing (term : String) (hits : List Json) (lines : List String) : List Response :=
  if hits = [] then Response.reply ("No contact found matching \"" ++ term ++ "\".")
  else Response.reply (Collection.joinLines lines) .note (hits.any collection.tears)

/-- A search finds these contacts. They are listed, one line each, if the details of all of them can
be shown, and else the search fails. -/
structure Finds (d : Desk) (term : String) (hits : List Json) : Prop where
  matching : matching term d = .ok hits
  listed : (∀ r ∈ hits, showsInfo r = true) →
    ∃ lines, hits.mapM line = .ok lines ∧ find term d = .ok (listing term hits lines)
  notShown : (∃ r ∈ hits, showsInfo r = false) → find term d = .error .unexpected

/-- What is found is answered with, as far as its lines can be shown. -/
theorem find_of_matching {hits : List Json} (hhits : Contacts.matching term d = .ok hits) :
    find term d = (hits.mapM line).map (listing term hits) := by
  rw [find, hhits, ok_bind]
  cases hits with
  | nil => rfl
  | cons r hits =>
    show ((r :: hits).mapM line >>= fun lines ↦ _) = _
    cases (r :: hits).mapM line <;> rfl

/-! ### Deleting -/

/-- The confirmation that so many contacts are deleted. -/
def confirmation (name : String) (count : ℕ) : List Response :=
  Response.reply ("Contact(s) named \"" ++ name ++ "\" deleted (" ++ Number.showNat count ++ ").")
    .note

/-- What comes of deleting the contacts of a name. -/
structure DeletesAll (d : Desk) (contacts : List Json) (name : String)
    (outcome : Except Failure (List Response) × Desk) : Prop where
  deleted : (∃ r ∈ contacts, Collection.isNamed name r = true) →
    d.Rewrites collection (contacts.filter fun r ↦ !Collection.isNamed name r)
      (confirmation name (contacts.filter (Collection.isNamed name)).length) outcome
  notFound : outcome = (.error (.refused (.notFound .contact name)), d) ↔
    ∀ r ∈ contacts, Collection.isNamed name r = false
  again : (delete name).perform outcome.2 =
    (.error (.refused (.notFound .contact name)), outcome.2)
  found : Finds d name (contacts.filter (Collection.isNamedLike name))
  removed : (contacts.filter (Collection.isNamed name)).Sublist
    (contacts.filter (Collection.isNamedLike name))

section

variable (hrecords : collection.records d = .ok L) (hnames : ∀ r ∈ L, HasName r)
include hrecords hnames

/-- **A search lists the contacts whose name contains the term**, in order. -/
theorem finds (term : String) : Finds d term (L.filter (Collection.isNamedLike term)) := by
  have hhits : matching term d = .ok (L.filter (Collection.isNamedLike term)) := by
    rw [matching, hrecords, ok_bind,
      Store.partition?_congr (q := Store.testOf (Collection.isNamedLike term))
        fun r hr ↦ nameHolds_eq (hnames r hr),
      Store.partition?_testOf]
    rfl
  have hline {r : Json} (hr : r ∈ L.filter (Collection.isNamedLike term)) :=
    (hnames r (List.mem_of_mem_filter hr)).line_cases
  constructor
  case matching => exact hhits
  case listed =>
    intro hshown
    obtain ⟨lines, hlines⟩ := exists_mapM_eq_ok fun r hr ↦ (hline hr).1 (hshown r hr)
    exact ⟨lines, hlines, by rw [find_of_matching hhits, hlines]; rfl⟩
  case notShown =>
    rintro ⟨r, hr, hshown⟩
    have hlines : (L.filter (Collection.isNamedLike term)).mapM line = .error .unexpected := by
      refine mapM_eq_error (fun r hr ↦ ?_) ⟨r, hr, (hline hr).2 hshown⟩
      cases hinfo : showsInfo r with
      | true => exact .inl ((hline hr).1 hinfo)
      | false => exact .inr ((hline hr).2 hinfo)
    rw [find_of_matching hhits, hlines]
    rfl

theorem perform_removeWhere :
    (Store.removeWhere collection.key (isNamed name)).perform d.store =
      if L.filter (Collection.isNamed name) = [] then (.ok [], d.store)
      else d.store.rewritten collection.key (L.filter fun r ↦ !Collection.isNamed name r)
        (L.filter (Collection.isNamed name)) :=
  Store.perform_removeWhere .contacts hrecords fun r hr ↦ isNamed_eq (hnames r hr)

variable (hname : allBlank name = false)
include hname

omit hrecords hnames in
theorem requireTerm_eq : Collection.requireTerm .contactTerm name = .ok () := by
  rw [Collection.requireTerm, hname]
  rfl

theorem perform_delete_of_none (hnone : ∀ r ∈ L, Collection.isNamed name r = false) :
    (delete name).perform d = (.error (.refused (.notFound .contact name)), d) := by
  have hempty : L.filter (Collection.isNamed name) = [] :=
    List.filter_eq_nil_iff.2 fun r hr ↦ by simp [hnone r hr]
  have hstore : (Desk.onStore (Store.removeWhere collection.key (isNamed name))).perform d =
      (.ok [], d) := by
    rw [Desk.onStore, perform_within, perform_removeWhere hrecords hnames, if_pos hempty]
  rw [delete, perform_ofExcept_bind_of_ok (requireTerm_eq hname), perform_bind_of_ok hstore]
  rfl

theorem rewrites_delete (hsome : ∃ r ∈ L, Collection.isNamed name r = true) :
    d.Rewrites collection (L.filter fun r ↦ !Collection.isNamed name r)
      (confirmation name (L.filter (Collection.isNamed name)).length)
      ((delete name).perform d) := by
  have hne : L.filter (Collection.isNamed name) ≠ [] := by
    obtain ⟨r, hr, h⟩ := hsome
    exact List.ne_nil_of_mem (List.mem_filter.2 ⟨hr, h⟩)
  have hdepth : (arr (L.filter fun r ↦ !Collection.isNamed name r)).depth ≤ Store.maxKept :=
    (Store.depth_of_subset (List.filter_subset_self L)).trans (Store.depth_of_list hrecords)
  rw [delete, perform_ofExcept_bind_of_ok (requireTerm_eq hname)]
  refine Desk.rewrites_onStore .contacts hdepth
    ((perform_removeWhere hrecords hnames).trans (if_neg hne)) fun e _ ↦ ?_
  rw [if_neg (by simpa using hne), perform_pure]
  rfl

end

end Contacts

/-- **All contacts of a name are deleted**, and no others; they are some of those that a search for
the name lists, and after that there is none. -/
theorem contacts_deleted {d : Desk} {contacts : List Json} {name : String}
    (hrecords : Contacts.collection.records d = .ok contacts)
    (hnames : ∀ r ∈ contacts, Contacts.HasName r) (hname : allBlank name = false) :
    Contacts.DeletesAll d contacts name ((Contacts.delete name).perform d) := by
  have hnone := Contacts.perform_delete_of_none hrecords hnames hname
  have hsome := Contacts.rewrites_delete hrecords hnames hname
  constructor
  case deleted => exact hsome
  case notFound =>
    refine ⟨fun heq r hr ↦ ?_, hnone⟩
    by_contra hnamed
    exact (hsome ⟨r, hr, by simpa using hnamed⟩).ne_refused _ _ heq
  case again =>
    by_cases hnamed : ∃ r ∈ contacts, Collection.isNamed name r = true
    · -- the contacts that are left have other names
      refine Contacts.perform_delete_of_none (hsome hnamed).listed
        (fun r hr ↦ hnames r (List.mem_of_mem_filter hr)) hname fun r hr ↦ ?_
      simpa using (List.mem_filter.1 hr).2
    · have hnever : ∀ r ∈ contacts, Collection.isNamed name r = false := by simpa using hnamed
      rw [hnone hnever, hnone hnever]
  case found => exact Contacts.finds hrecords hnames name
  case removed =>
    exact List.monotone_filter_right contacts fun r ↦ Collection.isNamedLike_of_isNamed

/-- Two of four contacts have the name in some case, the last but one has more than the name, and a
torn name is no name without halves. -/
theorem contacts_deleted_sigma :
    let first : Json := .obj [("name", .str "ΟΔΟΣ"), ("info", .str "1")]
    let torn : Json := .obj [("name", .scalar (.torn [.char 'ο', .half 5])), ("info", .str "2")]
    let longer : Json := .obj [("name", .str "ΟΔΟΣ 3"), ("info", .str "3")]
    let last : Json := .obj [("name", .str "οδος"), ("info", .str "4"), ("tags", .arr [])]
    let d := Desk.ofStore ⟨[("contacts", .arr [first, torn, longer, last])], .memory⟩
    Contacts.collection.records d = .ok [first, torn, longer, last] ∧
      (∀ r ∈ [first, torn, longer, last], Contacts.HasName r) ∧ allBlank "Οδος" = false ∧
      d.Rewrites Contacts.collection [torn, longer] (Contacts.confirmation "Οδος" 2)
        ((Contacts.delete "Οδος").perform d) := by
  intro first torn longer last d
  have hrecords : Contacts.collection.records d = .ok [first, torn, longer, last] := by
    decide +kernel
  have hspelled (s : String) : Json.str s = Json.spelled (s.toList.map .char) := by
    rw [Json.spelled, Scalar.ofPoints_map_char, String.ofList_toList]
  have hnames : ∀ r ∈ [first, torn, longer, last], Contacts.HasName r := by
    simp only [List.forall_mem_cons]
    exact ⟨⟨_, _, rfl, congrArg some (hspelled _)⟩, ⟨_, [.char 'ο', .half 5], rfl, rfl⟩,
      ⟨_, _, rfl, congrArg some (hspelled _)⟩, ⟨_, _, rfl, congrArg some (hspelled _)⟩,
      List.forall_mem_nil _⟩
  have hname : allBlank "Οδος" = false := by decide +kernel
  have hsome : ∃ r ∈ [first, torn, longer, last], Collection.isNamed "Οδος" r = true :=
    ⟨first, List.mem_cons_self, by decide +kernel⟩
  have hkept : [first, torn, longer, last].filter (fun r ↦ !Collection.isNamed "Οδος" r) =
      [torn, longer] := by decide +kernel
  have hcount : ([first, torn, longer, last].filter (Collection.isNamed "Οδος")).length = 2 := by
    decide +kernel
  have hdeleted := (contacts_deleted hrecords hnames hname).deleted hsome
  rw [hkept, hcount] at hdeleted
  exact ⟨hrecords, hnames, hname, hdeleted⟩

/-- **A deletion is not always answered.** It is not where a lone half of a pair stands anywhere in
the file, nor where one of the contacts is nested too deep to be handed out. -/
theorem contacts_not_always_deleted :
    (¬ ∀ (d : Desk) (contacts : List Json) (name : String),
      Contacts.collection.records d = .ok contacts → (∀ r ∈ contacts, Contacts.HasName r) →
      allBlank name = false → (∃ r ∈ contacts, Collection.isNamed name r = true) →
      ∃ answer, ((Contacts.delete name).perform d).1 = .ok answer) ∧
    ¬ ∀ (d : Desk) (contacts : List Json) (name : String),
      d.store.entries.get? Contacts.collection.key = some (.arr contacts) →
      (∀ r ∈ contacts, Contacts.HasName r) → allBlank name = false →
      (∃ r ∈ contacts, Collection.isNamed name r = true) →
      ∃ answer, ((Contacts.delete name).perform d).1 = .ok answer := by
  have hname : allBlank "a" = false := by decide +kernel
  have hspelled : Json.str "a" = Json.spelled [.char 'a'] := by decide +kernel
  constructor
  · intro h
    let contact : Json := .obj [("name", .str "a"), ("info", .str "b")]
    let d := Desk.ofStore
      ⟨[("notes", .arr [.scalar (.torn [.half 0])]), ("contacts", .arr [contact])], .file []⟩
    obtain ⟨answer, hanswer⟩ := h d [contact] "a" (by decide +kernel)
      (List.forall_mem_singleton.2 ⟨_, _, rfl, congrArg some hspelled⟩) hname
      ⟨contact, List.mem_singleton_self contact, by decide +kernel⟩
    have hfails : ((Contacts.delete "a").perform d).1 = .error .unexpected := by decide +kernel
    exact absurd (hfails.symm.trans hanswer) (by simp)
  · intro h
    let contact : Json := .obj [("name", .str "a"), ("info", .str "b"),
      ("tags", Store.nested Store.maxKept)]
    let d := Desk.ofStore ⟨[("contacts", .arr [contact])], .memory⟩
    have hdeep : Store.maxKept < (arr [contact]).depth := by
      simp only [contact, depth, depthOfItems, depthOfFields, Store.depth_nested]
      omega
    have hlist : d.store.list Contacts.collection.key = .error .unexpected :=
      Store.list_of_depth rfl hdeep
    obtain ⟨answer, hanswer⟩ := h d [contact] "a" rfl
      (List.forall_mem_singleton.2 ⟨_, _, rfl, congrArg some hspelled⟩) hname
      ⟨contact, List.mem_singleton_self contact, rfl⟩
    have hstore :
        (Store.removeWhere Contacts.collection.key (Contacts.isNamed "a")).perform d.store =
          (.error .unexpected, d.store) := by
      rw [Store.removeWhere, perform_bind_of_error
        ((Store.perform_recordsAt _ d.store).trans (congrArg (·, d.store) hlist))]
    have hdesk : (Desk.onStore
        (Store.removeWhere Contacts.collection.key (Contacts.isNamed "a"))).perform d =
        (.error .unexpected, d) := by
      rw [Desk.onStore, perform_within, hstore]
    rw [Contacts.delete, perform_ofExcept_bind_of_ok (Contacts.requireTerm_eq hname),
      perform_bind_of_error hdesk] at hanswer
    cases hanswer

end Organizer
