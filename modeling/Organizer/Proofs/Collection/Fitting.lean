import Organizer.CommandLine.Request
import Organizer.Proofs.Json.Readable
import Organizer.Proofs.Store.Holding

/-!
# Records of the right kind

Under the key of each collection stand records of its kind, under the key of a day texts, and in the
calendar index days. `Fits` says so of a record and its key, and that the record is a value as a
reader makes it. A store that holds nothing else, and of which the index is right if it is in
memory, is `Tidy`, and every command keeps it tidy: what is entered is made of texts, a file is
loaded only if all of its records are of the right kind, a record that is changed is of the right
kind before and keeps the fields that it needs, and nothing is written under the key of the index.
-/

namespace Organizer

open Organizer.Action Json

/-- The value can stand as a record under the key. -/
structure Fits (key : Scalar) (record : Json) : Prop where
  asRead : record.AsRead
  accepted : ∀ kind : RecordKind, key = kind.collection.key →
    kind.collection.accepts record = true
  event : Store.isDayKey key = true →
    record.isText = true ∧ ∃ day, key = .text day ∧ DayKey.isDigitsKey day = true
  entry : key = Store.indexKey → ∃ day : String, record = .str day ∧ Store.isDayKey day = true

/-! ### The keys -/

namespace RecordKind

theorem key_injective {kind kind' : RecordKind}
    (h : kind.collection.key = kind'.collection.key) : kind = kind' := by
  revert h
  cases kind <;> cases kind' <;> decide

theorem isDayKey_key (kind : RecordKind) : Store.isDayKey kind.collection.key = false := by
  cases kind <;> decide +kernel

theorem key_ne_indexKey (kind : RecordKind) : kind.collection.key ≠ Store.indexKey := by
  cases kind <;> decide

end RecordKind

theorem fits_record (kind : RecordKind) {record : Json} (h : record.AsRead)
    (haccepts : kind.collection.accepts record = true) : Fits kind.collection.key record where
  asRead := h
  accepted kind' heq := RecordKind.key_injective (Scalar.text.inj heq) ▸ haccepts
  event hday := absurd hday (by simp [kind.isDayKey_key])
  entry heq := absurd (Scalar.text.inj heq) kind.key_ne_indexKey

theorem isDayKey_of_isDigitsKey {day : String} (h : DayKey.isDigitsKey day = true) :
    Store.isDayKey day = true :=
  (Bool.and_eq_true_iff.1 h).1

theorem fits_event {day : String} {record : Json} (hday : DayKey.isDigitsKey day = true)
    (h : record.isText = true) : Fits day record where
  asRead := .of_isText h
  accepted kind heq := by
    have hkey := isDayKey_of_isDigitsKey hday
    rw [heq, kind.isDayKey_key] at hkey
    exact absurd hkey (by simp)
  event _ := ⟨h, day, rfl, hday⟩
  entry heq := absurd heq (Store.ne_indexKey_of_isDayKey (isDayKey_of_isDigitsKey hday))

theorem fits_entry {day : String} (hday : Store.isDayKey day = true) :
    Fits Store.indexKey (.str day) where
  asRead := .of_isText rfl
  accepted kind heq := absurd (Scalar.text.inj heq).symm kind.key_ne_indexKey
  event hday := absurd hday (by simp [Store.isDayKey_indexKey])
  entry _ := ⟨day, rfl, hday⟩

theorem keepable_fits : Store.Keepable Fits where
  isProper h := h.asRead.isProper
  day hday := fits_entry hday

/-! ### The store -/

namespace Store

/-- The key is a text, and not that of the index. -/
def IsForeign (key : Scalar) : Prop := ∃ text : String, key = .text text ∧ text ≠ indexKey

theorem isForeign_key (kind : RecordKind) : IsForeign kind.collection.key :=
  ⟨_, rfl, kind.key_ne_indexKey⟩

theorem isForeign_day {day : String} (h : isDayKey day = true) : IsForeign day :=
  ⟨day, rfl, fun heq ↦ ne_indexKey_of_isDayKey h (congrArg Scalar.text heq)⟩

/-- In memory a write to another key leaves the index right, if it comes off or not. -/
theorem preserves_indexed {key : Scalar} (hkey : IsForeign key) (rs : List Json) :
    Preserves (fun s ↦ s.backing = .memory → Indexed s.entries) (writeRecords key rs) := by
  intro s hs
  refine ⟨fun hmemory ↦ ?_, .anything _⟩
  have hs' : s.backing = .memory := ((faithful_writeRecords key rs).backing rfl).1 hmemory
  obtain ⟨text, rfl, hne⟩ := hkey
  by_cases hdepth : (Json.arr rs).depth ≤ maxKept
  · obtain ⟨t, hwrite, ht⟩ := (hs hs').writeRecords hs' (Scalar.isSpelled_text text)
      (mt Scalar.text.inj hne) hdepth
    rw [hwrite]
    exact ht
  · have hput : (put (.text text) rs).perform s = (.error .unexpected, s) := by
      rw [perform_put, if_pos (Nat.lt_of_not_le hdepth)]
    rw [writeRecords_eq, perform_bind_of_error hput]
    exact hs hs'

/-- All records fit under their keys, and so do those on the disk. In memory the index is right. -/
structure Tidy (s : Store) : Prop extends Holds Fits s where
  indexed : s.backing = .memory → Indexed s.entries

/-- The operations of a store move records about without looking into them. -/
theorem writewise_tidy : Writewise Tidy IsForeign Fits where
  records hs hlist := hs.holding.of_list hlist
  write {key rs} hkey hrs s hs := by
    have hindexed := (preserves_indexed hkey rs s hs.indexed).1
    obtain ⟨text, rfl, -⟩ := hkey
    have hholds := (recordwise_holds keepable_fits).writewise.write ⟨text, rfl⟩ hrs
    exact ⟨⟨(hholds s hs.toHolds).1, hindexed⟩, .anything _⟩

theorem Tidy.reopen {s : Store} (h : s.Tidy) : ∃ t, s.reopen = .ok t ∧ t.Tidy := by
  obtain ⟨entries, hdisk, hholding⟩ := h.onDisk
  obtain ⟨t, ht, rfl, hdisk', hbacking⟩ := reopen_of_onDisk hdisk hholding.hasIndex
  refine ⟨t, ht, ⟨hholding, t.entries, hdisk', hholding⟩, fun hmemory ↦ ?_⟩
  have hs := hbacking.1 hmemory
  rw [onDisk, hs] at hdisk
  exact Except.ok.inj hdisk ▸ h.indexed hs

theorem Opens.tidy {s : Store} (h : Opens [] s) : s.Tidy :=
  ⟨h.holds, fun _ ↦ (h.kept (List.forall_mem_nil _) .nil (.inl rfl)).indexed⟩

end Store

/-! ### The desk -/

namespace Desk

/-- The store on the desk is tidy. -/
def Tidy (d : Desk) : Prop := d.store.Tidy

variable {α : Type} {p : α → Prop}

theorem ensures_onStore {a : Action Store α} (h : Ensures Store.Tidy p a) :
    Ensures Tidy p (onStore a) :=
  .within (fun _ hd ↦ hd) (fun _ _ hs _ ↦ hs) h

theorem preserves_onFiles (a : Action FileTree α) : Preserves Tidy (onFiles a) :=
  .within (I := fun _ ↦ True) (fun _ _ ↦ trivial) (fun _ _ _ hd ↦ hd)
    fun _ _ ↦ ⟨trivial, .anything _⟩

theorem preserves_write (path : Path) (v : Json) : Preserves Tidy (write path v) :=
  .ite (fun _ ↦ .bind (preserves_onFiles _) fun _ _ ↦ .fail) fun _ ↦
    .ite (fun _ ↦ .bind (preserves_onFiles _) fun _ _ ↦ .fail) fun _ ↦ preserves_onFiles _

theorem ensures_recordsAt (key : Scalar) :
    Ensures Tidy (fun rs ↦ ∀ r ∈ rs, Fits key r) (recordsAt key) :=
  .bind .get fun _ hd ↦ .ofExcept fun _ hlist ↦ hd.holding.of_list hlist

/-- What is read from a file is as a reader makes it. -/
theorem asRead_of_read {d : Desk} {path : Path} {v : Json} (h : d.read path = .ok v) :
    v.AsRead := by
  rw [read] at h
  split at h
  · cases h
  · cases h
  · split at h
    · rename_i hbytes
      cases h
      cases htext : orMalformed (String.fromUTF8? _) with
      | error e =>
        rw [ofBytes, htext] at hbytes
        cases hbytes
      | ok text =>
        rw [ofBytes, htext] at hbytes
        exact asRead_of_readChars hbytes
    · cases h
    · cases h

end Desk

open Desk

/-! ### Any collection -/

namespace Collection

section

variable (kind : RecordKind) {record : Json}

theorem preserves_append (h : Fits kind.collection.key record) :
    Preserves Tidy (onStore (Store.append kind.collection.key record)) :=
  ensures_onStore (Store.writewise_tidy.append (Store.isForeign_key kind) h)

theorem preserves_replaceAt (place : Json) (h : Fits kind.collection.key record) :
    Preserves Tidy (onStore (Store.replaceAt kind.collection.key place record)) :=
  ensures_onStore (Store.writewise_tidy.replaceAt (Store.isForeign_key kind) place h)

theorem preserves_removeAt (place : Json) :
    Preserves Tidy (onStore (Store.removeAt kind.collection.key place)) :=
  ensures_onStore (Store.writewise_tidy.removeAt (Store.isForeign_key kind) place)

end

theorem preserves_save (c : Collection) (typed : Option String) :
    Preserves Tidy (c.save typed) :=
  .bind (ensures_recordsAt _) fun _ _ ↦ .ite (fun _ ↦ .pure trivial) fun _ ↦
    .bind .get fun _ _ ↦ .bind (.ofExcept (.anything _)) fun _ _ ↦
      .bind (preserves_write _ _) fun _ _ ↦ .pure trivial

theorem recordsOf?_eq_some {c : Collection} {v : Json} {rs : List Json} :
    c.recordsOf? v = some rs ↔ v = .arr rs ∧ ∀ r ∈ rs, c.accepts r = true := by
  cases v with
  | scalar x => simp [recordsOf?]
  | arr xs =>
    rw [recordsOf?, Option.ite_none_right_eq_some, List.all_eq_true]
    constructor
    · rintro ⟨hall, heq⟩
      cases heq
      exact ⟨rfl, hall⟩
    · rintro ⟨heq, hall⟩
      cases heq
      exact ⟨hall, rfl⟩
  | obj fs => simp [recordsOf?]

/-- **A file is loaded only if all of its records are of the right kind.** -/
theorem preserves_load (kind : RecordKind) (typed : Option String) :
    Preserves Tidy (kind.collection.load typed) := by
  refine .bind .get fun d _ ↦ .bind (.ofExcept (.anything _)) fun path _ ↦
    .bind (.ofExcept fun v hread ↦ asRead_of_read hread) fun v hv ↦ ?_
  split
  · exact .refuse _
  · rename_i rs hrs
    obtain ⟨rfl, haccepts⟩ := recordsOf?_eq_some.1 hrs
    have hfits : ∀ r ∈ rs, Fits kind.collection.key r := fun r hr ↦
      fits_record kind (asRead_arr.1 hv r hr) (haccepts r hr)
    exact .bind (ensures_onStore (Store.writewise_tidy.write (Store.isForeign_key kind) hfits))
      fun _ _ ↦ .pure trivial

/-- The record at a place is one of the records. -/
theorem yields_recordAt (c : Collection) (place : Nat) {d : Desk} (hd : d.Tidy) :
    Yields (Fits c.key) (c.recordAt place d) := by
  refine .bind_of_yields (fun rs hlist ↦ hd.holding.of_list hlist) fun rs hrs ↦ ?_
  split
  · exact .ok (hrs _ (List.mem_of_getElem? ‹_›))
  · exact .error _

theorem hasText_set_self (fs : Fields) (key : String) (text : String) :
    hasText (fs.set key (.str text)) key = true := by
  rw [hasText, Fields.get?_set_self]
  rfl

theorem hasText_set_of_ne (fs : Fields) {key other : String} (h : other ≠ key) (v : Json) :
    hasText (fs.set key v) other = hasText fs other := by
  rw [hasText, hasText, Fields.get?_set_of_ne _ _ (mt Scalar.text.inj h)]

end Collection

open Collection

/-- An object of texts is as a reader makes it. -/
theorem asRead_pair {k l : String} (hne : k ≠ l) {x y : Scalar} (hx : x.isReadable = true)
    (hy : y.isReadable = true) : (obj [(k, .scalar x), (l, .scalar y)]).AsRead := by
  refine asRead_obj.2 ⟨by simp [Fields.keys, hne], fun f hf ↦ ?_⟩
  rcases List.mem_pair.1 hf with rfl | rfl
  · exact ⟨rfl, rfl, hx⟩
  · exact ⟨rfl, rfl, hy⟩

/-! ### Notes -/

namespace Notes

theorem fits_note (text : String) : Fits collection.key (.str text) :=
  fits_record .notes (.of_isText rfl) rfl

theorem preserves_add (text : String) : Preserves Tidy (Notes.add text) :=
  .bind (preserves_append .notes (fits_note text)) fun _ _ ↦ .pure trivial

theorem preserves_finishEdit (place : Nat) (text : Option String) :
    Preserves Tidy (Notes.finishEdit place text) := by
  cases text with
  | none => exact .pure trivial
  | some text =>
    exact .bind (preserves_replaceAt .notes _ (fits_note text)) fun _ _ ↦ .pure trivial

theorem preserves_delete (term : String) : Preserves Tidy (Notes.delete term) :=
  .bind .get fun _ _ ↦ .bind (.ofExcept (.anything _)) fun _ _ ↦
    .bind (preserves_removeAt .notes _) fun _ _ ↦ .pure trivial

end Notes

/-! ### To-do items -/

namespace Todos

theorem preserves_add (text : String) : Preserves Tidy (Todos.add text) := by
  refine .ite (fun _ ↦ .refuse _) fun _ ↦
    .bind (preserves_append .todos ?_) fun _ _ ↦ .pure trivial
  exact fits_record .todos (asRead_pair (by decide) rfl rfl) rfl

/-- An item that is marked is still an item. -/
theorem accepts_set_done {fs : Fields} (h : accepts (.obj fs) = true) (b : Bool) :
    accepts (.obj (fs.set "done" (.bool b))) = true := by
  have htext := (Bool.and_eq_true_iff.1 h).1
  rw [accepts, Fields.get?_set_self, hasText_set_of_ne fs (by decide), htext]
  rfl

theorem preserves_markDone (word : Option String) : Preserves Tidy (markDone word) := by
  refine .bind (.ofExcept (.anything _)) fun number _ ↦
    .bind (ensures_recordsAt _) fun records hrecords ↦ .ite (fun _ ↦ .refuse _) fun _ ↦ ?_
  refine .bind (p := fun fs : Fields ↦ Fits collection.key (.obj fs))
    (.require fun fields hfields ↦ ?_) fun fields hfields ↦ ?_
  · -- an item is an object, and so its fields are those that it has
    obtain ⟨record, hrecord, hfields⟩ := Option.bind_eq_some_iff.1 hfields
    have hfits := hrecords record (List.mem_of_getElem? hrecord)
    have haccepts := hfits.accepted .todos rfl
    cases record with
    | scalar | arr => cases haccepts
    | obj fs =>
      cases hfields
      exact hfits
  · have hmarked : Fits collection.key (.obj (fields.set "done" (.bool true))) :=
      fits_record .todos (hfields.asRead.set rfl ⟨rfl, rfl⟩)
        (accepts_set_done (hfields.accepted .todos rfl) true)
    exact .bind (preserves_replaceAt .todos _ hmarked) fun _ _ ↦
      .bind .get fun _ _ ↦ .bind (.ofExcept (.anything _)) fun _ _ ↦ .pure trivial

end Todos

/-! ### Links -/

namespace Links

theorem preserves_add (address name : String) : Preserves Tidy (Links.add address name) := by
  refine .ite (fun _ ↦ .refuse _) fun _ ↦
    .bind (preserves_append .links ?_) fun _ _ ↦ .pure trivial
  exact fits_record .links (asRead_pair (by decide) rfl rfl) rfl

theorem preserves_go (term : String) : Preserves Tidy (Links.go term) :=
  .bind .get fun _ _ ↦ .bind (.ofExcept (.anything _)) fun _ _ ↦
    .bind (.ofExcept (.anything _)) fun _ _ ↦ .bind (.ofExcept (.anything _)) fun _ _ ↦
      .bind (p := fun _ ↦ True) (.require fun _ _ ↦ trivial) fun _ _ ↦
        .bind (.modify fun _ hd ↦ hd) fun _ _ ↦ .pure trivial

theorem preserves_delete (term : String) : Preserves Tidy (Links.delete term) :=
  .bind .get fun _ _ ↦ .bind (.ofExcept (.anything _)) fun _ _ ↦
    .bind (preserves_removeAt .links _) fun _ _ ↦ .pure trivial

theorem yields_fieldsAt (place : Nat) {d : Desk} (hd : d.Tidy) :
    Yields (fun fs ↦ Fits collection.key (.obj fs)) (fieldsAt place d) := by
  refine .bind_of_yields (yields_recordAt collection place hd) fun record hrecord ↦ ?_
  cases record with
  | scalar | arr => exact .error _
  | obj fs => exact .ok hrecord

/-- A link with a new name is still a link. -/
theorem accepts_set_name {fs : Fields} (h : accepts (.obj fs) = true) (name : String) :
    accepts (.obj (fs.set "name" (.str name))) = true := by
  have haddress := (Bool.and_eq_true_iff.1 h).2
  rw [accepts, hasText_set_self, hasText_set_of_ne fs (by decide), haddress]
  rfl

theorem preserves_rename (term newName : String) : Preserves Tidy (rename term newName) := by
  refine .ite (fun _ ↦ .refuse _) fun _ ↦ .bind .get fun d hd ↦
    .bind (.ofExcept (.anything _)) fun place _ ↦
      .bind (.ofExcept (yields_fieldsAt place hd)) fun fields hfields ↦ ?_
  have hrenamed : Fits collection.key (.obj (fields.set "name" (.str newName))) :=
    fits_record .links (hfields.asRead.set rfl (.of_isText rfl))
      (accepts_set_name (hfields.accepted .links rfl) newName)
  exact .bind (preserves_replaceAt .links _ hrenamed) fun _ _ ↦ .pure trivial

end Links

/-! ### Contacts -/

namespace Contacts

theorem preserves_add (name info : String) : Preserves Tidy (Contacts.add name info) := by
  refine .ite (fun _ ↦ .refuse _) fun _ ↦
    .bind (preserves_append .contacts ?_) fun _ _ ↦ .pure trivial
  exact fits_record .contacts (asRead_pair (by decide) rfl rfl) rfl

theorem preserves_delete (name : String) : Preserves Tidy (Contacts.delete name) :=
  .bind (.ofExcept (.anything _)) fun _ _ ↦
    .bind (ensures_onStore (Store.writewise_tidy.removeWhere (Store.isForeign_key .contacts) _))
      fun _ _ ↦ .ite (fun _ ↦ .refuse _) fun _ ↦ .pure trivial

end Contacts

/-! ### The agenda -/

namespace Agenda

/-- What a person types for a day makes a key of six digits. -/
theorem isDigitsKey_of_ofText {s key : String} (h : DayKey.ofText s = .ok key) :
    DayKey.isDigitsKey key = true := by
  rw [DayKey.ofText] at h
  split at h
  · cases h
  · rename_i hdigits
    split at h
    · split at h <;> cases h
      rw [DayKey.isDigitsKey, Store.isDayKey, String.toList_append, List.drop_left,
        Bool.and_eq_true_iff]
      exact ⟨List.isPrefixOf_iff_prefix.2 (List.prefix_append _ _), by simpa using hdigits⟩
    · cases h

theorem preserves_add (day : Option String) (text : String) : Preserves Tidy (add day text) := by
  refine .bind (.ofExcept fun _ hkey ↦ isDigitsKey_of_ofText hkey) fun key hkey ↦ ?_
  have happend : Preserves Store.Tidy (Store.append key (.str text)) :=
    Store.writewise_tidy.append (Store.isForeign_day (isDayKey_of_isDigitsKey hkey))
      (fits_event hkey rfl)
  exact .ite (fun _ ↦ .refuse _) fun _ ↦
    .bind (ensures_onStore happend) fun _ _ ↦ .pure trivial

theorem preserves_save (typed : Option String) : Preserves Tidy (save typed) :=
  .bind .get fun _ _ ↦ .bind (.ofExcept (.anything _)) fun _ _ ↦
    .ite (fun _ ↦ .pure trivial) fun _ ↦ .bind (.ofExcept (.anything _)) fun _ _ ↦
      .bind (preserves_write _ _) fun _ _ ↦ .pure trivial

theorem dayOf?_eq_some {field : Scalar × Json} {day : String × List Json} :
    dayOf? field = some day ↔ field = (.text day.1, .arr day.2) ∧
      DayKey.isDigitsKey day.1 = true ∧ ∀ event ∈ day.2, event.isText = true := by
  obtain ⟨key, events⟩ := day
  constructor
  · intro h
    unfold dayOf? at h
    split at h
    · rw [Option.ite_none_right_eq_some, Bool.and_eq_true, List.all_eq_true] at h
      obtain ⟨hday, heq⟩ := h
      cases heq
      exact ⟨rfl, hday⟩
    · cases h
  · rintro ⟨rfl, hday⟩
    rw [dayOf?, Option.ite_none_right_eq_some, Bool.and_eq_true, List.all_eq_true]
    exact ⟨hday, rfl⟩

/-- The days of a file are the fields of its value, in their order. -/
theorem daysOf?_eq_some {v : Json} {days : List (String × List Json)} :
    daysOf? v = some days ↔
      v = .obj (days.map fun day ↦ (.text day.1, .arr day.2)) ∧ ∀ day ∈ days,
        DayKey.isDigitsKey day.1 = true ∧ ∀ event ∈ day.2, event.isText = true := by
  cases v with
  | scalar | arr => simp [daysOf?, asFields?]
  | obj fs =>
    simp only [daysOf?, asFields?, Option.bind_eq_bind, Option.bind_some, obj.injEq]
    induction fs generalizing days with
    | nil => cases days <;> simp
    | cons f fs ih =>
      rw [List.mapM_cons]
      cases days with
      | nil => simp [Option.bind_eq_some_iff]
      | cons day days =>
        simp only [Option.bind_eq_bind, Option.bind_eq_some_iff, Option.pure_def,
          Option.some.injEq, List.cons.injEq, List.map_cons, List.mem_cons, forall_eq_or_imp]
        constructor
        · rintro ⟨day', hday, days', hdays, rfl, rfl⟩
          obtain ⟨hf, hday⟩ := dayOf?_eq_some.1 hday
          obtain ⟨hfs, hdays⟩ := ih.1 hdays
          exact ⟨⟨hf, hfs⟩, hday, hdays⟩
        · rintro ⟨⟨hf, hfs⟩, hday, hdays⟩
          exact ⟨day, dayOf?_eq_some.2 ⟨hf, hday⟩, days, ih.2 ⟨hfs, hdays⟩, rfl, rfl⟩

/-- To replace the agenda keeps an invariant that writes keep, if a key that the index lists may be
written under. -/
theorem preserves_replace {I : Store → Prop} {K : Scalar → Prop} {P : Scalar → Json → Prop}
    (h : Store.Writewise I K P) (hentry : ∀ key, P Store.indexKey (.scalar key) → K key)
    {days : List (String × List Json)}
    (hdays : ∀ day ∈ days, K day.1 ∧ ∀ event ∈ day.2, P day.1 event) :
    Preserves I (replace days) := by
  refine .bind .get fun s hs ↦ .bind (p := fun entries ↦ ∀ x ∈ entries, P Store.indexKey x)
    (.ofExcept ?_) fun entries hentries ↦ .bind (.forM fun entry hmem ↦ ?_) fun _ _ ↦
      .forM fun day hday ↦ h.write (hdays day hday).1 (hdays day hday).2
  · exact .bind_of_yields (fun index hlist ↦ h.records hs hlist) fun index hindex _ hsorted
      x hx ↦ hindex x (Store.mem_of_sorted hsorted hx)
  · -- what the index lists is a key, and its events are taken away
    cases entry with
    | scalar key =>
      exact .ite (fun _ ↦ .pure trivial) fun _ ↦
        h.write (hentry key (hentries _ hmem)) (List.forall_mem_nil _)
    | arr | obj => exact .fail

theorem preserves_load (typed : Option String) : Preserves Tidy (load typed) := by
  refine .bind .get fun d _ ↦ .bind (.ofExcept (.anything _)) fun path _ ↦
    .bind (.ofExcept (.anything _)) fun v _ ↦ ?_
  split
  · exact .refuse _
  · have hdays := (daysOf?_eq_some.1 ‹_›).2
    refine .bind (ensures_onStore (preserves_replace Store.writewise_tidy (fun key hkey ↦ ?_)
      fun day hday ↦ ⟨?_, fun event hevent ↦ ?_⟩)) fun _ _ ↦ .pure trivial
    · obtain ⟨day, heq, hday⟩ := hkey.entry rfl
      cases heq
      exact Store.isForeign_day hday
    · exact Store.isForeign_day (isDayKey_of_isDigitsKey (hdays day hday).1)
    · exact fits_event (hdays day hday).1 ((hdays day hday).2 event hevent)

end Agenda

end Organizer
