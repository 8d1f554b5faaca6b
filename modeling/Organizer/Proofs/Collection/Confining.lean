import Organizer.Proofs.Collection.Fitting
import Organizer.Proofs.Store.Confining

/-!
# Commands on some of the keys

A command on a collection has one key. A command on the calendar has the keys of the days and of the
index, and with them all keys that the index lists: it looks them up, and to load an agenda clears
them. Beside the store the commands depend on the files and on where to look for them, and on
nothing else; so each of them is confined to its keys, if operations on the store are
(`Store.Confined`).
-/

namespace Organizer

open Organizer.Action Json

variable {own : Scalar → Bool} {R : Store → Store → Prop} {d e : Desk}

/-! ### The desk -/

namespace Desk

/-- The stores are related, and the files and the places where to look for them are the same. -/
structure Related (R : Store → Store → Prop) (d e : Desk) : Prop where
  store : R d.store e.store
  files : d.files = e.files
  home : d.home = e.home
  savedFiles : d.savedFiles = e.savedFiles

theorem alike_onStore {α : Type} {a b : Action Store α} (h : Alike R a b) :
    Alike (Related R) (onStore a) (onStore b) :=
  .within (fun _ _ hde ↦ hde.store)
    (fun _ _ _ _ hst hde ↦ ⟨hst, hde.files, hde.home, hde.savedFiles⟩) h

theorem alike_onFiles {α : Type} (a : Action FileTree α) :
    Alike (Related R) (onFiles a) (onFiles a) :=
  .within (fun _ _ hde ↦ hde.files)
    (fun _ _ _ _ hfiles hde ↦ ⟨hde.store, hfiles, hde.home, hde.savedFiles⟩) (.refl a)

theorem alike_openAddress (address : Json) :
    Alike (Related R) (openAddress address) (openAddress address) :=
  .modify fun _ _ hde ↦ ⟨hde.store, hde.files, hde.home, hde.savedFiles⟩

theorem alike_write (path : Path) (v : Json) : Alike (Related R) (write path v) (write path v) :=
  .ite (fun _ ↦ .bind (alike_onFiles _) fun _ ↦ .fail) fun _ ↦
    .ite (fun _ ↦ .bind (alike_onFiles _) fun _ ↦ .fail) fun _ ↦ alike_onFiles _

theorem Related.resolve (h : Related R d e) (typed : Option String) (fileName : String) :
    d.resolve typed fileName = e.resolve typed fileName := by
  rw [Desk.resolve, Desk.resolve, h.home, h.savedFiles]

theorem Related.read (h : Related R d e) (path : Path) : d.read path = e.read path := by
  rw [Desk.read, Desk.read, h.files]

theorem alike_recordsAt (h : Store.Confined own R) {key : Scalar} (hkey : own key = true) :
    Alike (Related R) (recordsAt key) (recordsAt key) :=
  .get_bind fun d _ hde ↦ h.list hde.store hkey ▸ .ofExcept (d.store.list key)

/-- A file is read, and something is done with its value. -/
theorem alike_reading {α : Type} {typed : Option String} {fileName : String}
    {f : Path → Json → Action Desk α} (hf : ∀ path v, Alike (Related R) (f path v) (f path v)) :
    Alike (Related R)
      (do
        let d ← get
        let path ← Action.ofExcept (d.resolve typed fileName)
        f path (← Action.ofExcept (d.read path)))
      (do
        let d ← get
        let path ← Action.ofExcept (d.resolve typed fileName)
        f path (← Action.ofExcept (d.read path))) :=
  .get_bind fun d _ hde ↦ hde.resolve typed fileName ▸ .bind (.ofExcept _) fun path ↦
    hde.read path ▸ .bind (.ofExcept (d.read path)) fun _ ↦ hf path _

end Desk

open Desk

/-! ### Any collection -/

namespace Collection

variable {c : Collection}

theorem records_eq (h : Store.Confined own R) (hde : Related R d e) (hkey : own c.key = true) :
    c.records d = c.records e :=
  h.list hde.store hkey

theorem list_eq (h : Store.Confined own R) (hde : Related R d e) (hkey : own c.key = true) :
    c.list d = c.list e := by
  rw [list, list, records_eq h hde hkey]

theorem find_eq (h : Store.Confined own R) (hde : Related R d e) (hkey : own c.key = true)
    (what : Sought) (part : EmptyPart) (term : String) (p : Store.Test) :
    c.find what part term p d = c.find what part term p e := by
  rw [find, find, h.findFirst hde.store hkey]

theorem recordAt_eq (h : Store.Confined own R) (hde : Related R d e) (hkey : own c.key = true)
    (place : Nat) : c.recordAt place d = c.recordAt place e := by
  rw [recordAt, recordAt, records_eq h hde hkey]

theorem alike_save (h : Store.Confined own R) (hkey : own c.key = true) (typed : Option String) :
    Alike (Related R) (c.save typed) (c.save typed) :=
  .bind (alike_recordsAt h hkey) fun _ ↦ .ite (fun _ ↦ .pure _) fun _ ↦
    .get_bind fun _ _ hde ↦ hde.resolve typed c.fileName ▸ .bind (.ofExcept _) fun _ ↦
      .bind (alike_write _ _) fun _ ↦ .pure _

theorem alike_load (h : Store.Confined own R) (hkey : own c.key = true)
    (hother : Scalar.text c.key ≠ Store.indexKey) (typed : Option String) :
    Alike (Related R) (c.load typed) (c.load typed) := by
  refine alike_reading fun path v ↦ ?_
  split
  · exact .refuse _
  · exact .bind (alike_onStore (h.writeRecords hkey fun heq ↦ absurd heq hother)) fun _ ↦ .pure _

end Collection

section

variable {record : Json}

theorem RecordKind.alike_append (kind : RecordKind) (h : Store.Confined own R)
    (hkey : own kind.collection.key = true) :
    Alike (Related R) (onStore (Store.append kind.collection.key record))
      (onStore (Store.append kind.collection.key record)) :=
  alike_onStore (h.append hkey (mt Scalar.text.inj kind.key_ne_indexKey))

theorem RecordKind.alike_replaceAt (kind : RecordKind) (h : Store.Confined own R)
    (hkey : own kind.collection.key = true) (place : Json) :
    Alike (Related R) (onStore (Store.replaceAt kind.collection.key place record))
      (onStore (Store.replaceAt kind.collection.key place record)) :=
  alike_onStore (h.replaceAt hkey (mt Scalar.text.inj kind.key_ne_indexKey) place)

theorem RecordKind.alike_removeAt (kind : RecordKind) (h : Store.Confined own R)
    (hkey : own kind.collection.key = true) (place : Json) :
    Alike (Related R) (onStore (Store.removeAt kind.collection.key place))
      (onStore (Store.removeAt kind.collection.key place)) :=
  alike_onStore (h.removeAt hkey (mt Scalar.text.inj kind.key_ne_indexKey) place)

end

/-! ### Single collections -/

namespace Notes

variable (hkey : own collection.key = true)

include hkey

theorem alike_add (h : Store.Confined own R) (text : String) :
    Alike (Related R) (Notes.add text) (Notes.add text) :=
  .bind (RecordKind.alike_append .notes h hkey) fun _ ↦ .pure _

theorem find_eq (h : Store.Confined own R) (hde : Related R d e) (term : String) :
    Notes.find term d = Notes.find term e :=
  Collection.find_eq h hde hkey ..

theorem beginEdit_eq (h : Store.Confined own R) (hde : Related R d e) (term : String) :
    beginEdit term d = beginEdit term e := by
  simp only [beginEdit, find_eq hkey h hde, Collection.recordAt_eq h hde hkey]

theorem alike_finishEdit (h : Store.Confined own R) (place : Nat) (text : Option String) :
    Alike (Related R) (finishEdit place text) (finishEdit place text) := by
  cases text with
  | none => exact .pure _
  | some text =>
    exact .bind (RecordKind.alike_replaceAt .notes h hkey _) fun _ ↦ .pure _

theorem alike_delete (h : Store.Confined own R) (term : String) :
    Alike (Related R) (Notes.delete term) (Notes.delete term) :=
  .get_bind fun d _ hde ↦ find_eq hkey h hde term ▸ .bind (.ofExcept (Notes.find term d)) fun _ ↦
    .bind (RecordKind.alike_removeAt .notes h hkey _) fun _ ↦ .pure _

end Notes

namespace Todos

variable (hkey : own collection.key = true)

include hkey

theorem alike_add (h : Store.Confined own R) (text : String) :
    Alike (Related R) (Todos.add text) (Todos.add text) :=
  .ite (fun _ ↦ .refuse _) fun _ ↦
    .bind (RecordKind.alike_append .todos h hkey) fun _ ↦ .pure _

theorem alike_markDone (h : Store.Confined own R) (word : Option String) :
    Alike (Related R) (markDone word) (markDone word) :=
  .bind (.ofExcept _) fun _ ↦ .bind (alike_recordsAt h hkey) fun _ ↦
    .ite (fun _ ↦ .refuse _) fun _ ↦ .bind (.require _) fun _ ↦
      .bind (RecordKind.alike_replaceAt .todos h hkey _) fun _ ↦
        .get_bind fun d _ hde ↦ Collection.list_eq h hde hkey ▸
          .bind (.ofExcept (collection.list d)) fun _ ↦ .pure _

end Todos

namespace Links

variable (hkey : own collection.key = true)

include hkey

theorem alike_add (h : Store.Confined own R) (address name : String) :
    Alike (Related R) (Links.add address name) (Links.add address name) :=
  .ite (fun _ ↦ .refuse _) fun _ ↦
    .bind (RecordKind.alike_append .links h hkey) fun _ ↦ .pure _

theorem find_eq (h : Store.Confined own R) (hde : Related R d e) (term : String) :
    Links.find term d = Links.find term e :=
  Collection.find_eq h hde hkey ..

theorem fieldsAt_eq (h : Store.Confined own R) (hde : Related R d e) (place : Nat) :
    fieldsAt place d = fieldsAt place e := by
  rw [fieldsAt, fieldsAt, Collection.recordAt_eq h hde hkey]

theorem alike_go (h : Store.Confined own R) (term : String) :
    Alike (Related R) (go term) (go term) := by
  refine .get_bind fun d e hde ↦ ?_
  rw [Collection.records_eq h hde hkey, find_eq hkey h hde]
  refine .bind (.ofExcept _) fun _ ↦ .bind (.ofExcept _) fun place ↦ ?_
  rw [fieldsAt_eq hkey h hde]
  exact .bind (.ofExcept _) fun _ ↦ .bind (.require _) fun _ ↦
    .bind (alike_openAddress _) fun _ ↦ .pure _

theorem alike_delete (h : Store.Confined own R) (term : String) :
    Alike (Related R) (Links.delete term) (Links.delete term) :=
  .get_bind fun d _ hde ↦ find_eq hkey h hde term ▸ .bind (.ofExcept (Links.find term d)) fun _ ↦
    .bind (RecordKind.alike_removeAt .links h hkey _) fun _ ↦ .pure _

theorem alike_rename (h : Store.Confined own R) (term newName : String) :
    Alike (Related R) (rename term newName) (rename term newName) := by
  refine .ite (fun _ ↦ .refuse _) fun _ ↦ .get_bind fun d e hde ↦ ?_
  rw [find_eq hkey h hde]
  refine .bind (.ofExcept _) fun place ↦ ?_
  rw [fieldsAt_eq hkey h hde]
  exact .bind (.ofExcept _) fun _ ↦
    .bind (RecordKind.alike_replaceAt .links h hkey _) fun _ ↦ .pure _

end Links

namespace Contacts

variable (hkey : own collection.key = true)

include hkey

theorem alike_add (h : Store.Confined own R) (name info : String) :
    Alike (Related R) (Contacts.add name info) (Contacts.add name info) :=
  .ite (fun _ ↦ .refuse _) fun _ ↦
    .bind (RecordKind.alike_append .contacts h hkey) fun _ ↦ .pure _

theorem find_eq (h : Store.Confined own R) (hde : Related R d e) (term : String) :
    Contacts.find term d = Contacts.find term e := by
  rw [Contacts.find, Contacts.find, matching, matching, Collection.records_eq h hde hkey]

theorem alike_delete (h : Store.Confined own R) (name : String) :
    Alike (Related R) (Contacts.delete name) (Contacts.delete name) :=
  .bind (.ofExcept _) fun _ ↦
    .bind (alike_onStore (h.removeWhere hkey
      (mt Scalar.text.inj RecordKind.contacts.key_ne_indexKey) _)) fun _ ↦
      .ite (fun _ ↦ .refuse _) fun _ ↦ .pure _

end Contacts

/-! ### The agenda -/

namespace Agenda

/-- The days and the index are own keys. -/
structure Owned (own : Scalar → Bool) : Prop where
  index : own Store.indexKey = true
  day : ∀ {key}, Store.isDayKey key = true → own key = true

theorem Owned.ofText (hown : Owned own) {day key : String} (hkey : DayKey.ofText day = .ok key) :
    own key = true :=
  hown.day (isDayKey_of_isDigitsKey (isDigitsKey_of_ofText hkey))

theorem alike_add (h : Store.Confined own R) (day : Option String)
    (hkey : ∀ {key : String}, DayKey.ofText (day.getD "") = .ok key → own key = true)
    (text : String) : Alike (Related R) (Agenda.add day text) (Agenda.add day text) := by
  refine .bind_of_yields (p := fun key ↦ own (.text key) = true ∧
    Scalar.text key ≠ Store.indexKey) (.ofExcept _) (fun s _ _ key hread ↦ ?_) fun key hkey ↦ ?_
  · rw [perform_ofExcept] at hread
    exact ⟨hkey hread,
      Store.ne_indexKey_of_isDayKey (isDayKey_of_isDigitsKey (isDigitsKey_of_ofText hread))⟩
  · exact .ite (fun _ ↦ .refuse _) fun _ ↦
      .bind (alike_onStore (h.append hkey.1 hkey.2)) fun _ ↦ .pure _

theorem viewDay_eq (h : Store.Confined own R) (hown : Owned own) (hde : Related R d e)
    (day : String) : viewDay day d = viewDay day e := by
  rw [viewDay, viewDay]
  cases hkey : DayKey.ofText day with
  | error reason => rfl
  | ok key => rw [ok_bind, ok_bind, h.list hde.store (hown.ofText hkey)]

/-- What is computed of each item alike comes to the same of all. -/
theorem mapM_congr {α β : Type} {f g : α → Except Failure β} {xs : List α}
    (h : ∀ x ∈ xs, f x = g x) : xs.mapM f = xs.mapM g := by
  induction xs with
  | nil => rfl
  | cons x xs ih =>
    rw [List.mapM_cons, List.mapM_cons, h x List.mem_cons_self,
      ih fun y hy ↦ h y (List.mem_cons_of_mem _ hy)]

/-- What the index lists are own keys. -/
theorem listing_days (h : Store.Confined own R) (hindex : own Store.indexKey = true)
    (hde : Related R d e) {entries : List Json} (hdays : d.store.days = .ok entries) :
    Store.Listing own entries := by
  obtain ⟨index, hlist, hsorted⟩ := bind_eq_ok hdays
  exact fun k hk ↦ h.listed hde.store hindex hlist k (Store.mem_of_sorted hsorted hk)

/-- What stands under an entry of the index. -/
theorem dayEvents?_eq (h : Store.Confined own R) (hde : Related R d e) {entries : List Json}
    (hentries : Store.Listing own entries) {entry : Json} (hentry : entry ∈ entries) :
    dayEvents? d entry = dayEvents? e entry := by
  rw [dayEvents?, dayEvents?]
  cases entry with
  | scalar key => simp only [keyOf, ok_bind, h.list hde.store (hentries key hentry)]
  | arr | obj => rfl

theorem daysWithEvents_eq (h : Store.Confined own R) (hindex : own Store.indexKey = true)
    (hde : Related R d e) : daysWithEvents d = daysWithEvents e := by
  rw [daysWithEvents, daysWithEvents, ← h.days hde.store hindex]
  cases hdays : d.store.days with
  | error reason => rfl
  | ok entries =>
    rw [ok_bind, ok_bind, mapM_congr fun entry hentry ↦
      dayEvents?_eq h hde (listing_days h hindex hde hdays) hentry]

theorem tornListing_eq (h : Store.Confined own R) (hindex : own Store.indexKey = true)
    (hde : Related R d e) (days : List DayEvents) : tornListing d days = tornListing e days := by
  rw [tornListing, tornListing, ← h.days hde.store hindex]
  cases hdays : d.store.days with
  | error reason => rfl
  | ok entries =>
    congr 1
    rw [Bool.eq_iff_iff, List.any_eq_true, List.any_eq_true]
    refine exists_congr fun entry ↦ and_congr_right fun hentry ↦ ?_
    rw [dayEvents?_eq h hde (listing_days h hindex hde hdays) hentry]

theorem view_eq (h : Store.Confined own R) (hown : Owned own) (hde : Related R d e)
    (day : Option String) : view day d = view day e := by
  have hall : viewAll d = viewAll e := by
    simp only [viewAll, daysWithEvents_eq h hown.index hde, tornListing_eq h hown.index hde]
  unfold view
  split
  · exact hall
  · exact hall
  · exact hall
  · exact viewDay_eq h hown hde _

/-- The keys that entries are stand in the entries. -/
theorem scalar_mem_of_mapM_keyOf {entries : List Json} {keys : List Scalar}
    (h : entries.mapM keyOf = .ok keys) {key : Scalar} (hkey : key ∈ keys) :
    .scalar key ∈ entries := by
  induction entries generalizing keys with
  | nil =>
    cases h
    cases hkey
  | cons entry entries ih =>
    rw [List.mapM_cons] at h
    obtain ⟨k, hentry, h⟩ := bind_eq_ok h
    obtain ⟨ks, hrest, h⟩ := bind_eq_ok h
    cases h
    cases entry with
    | scalar k' =>
      cases hentry
      rcases List.mem_cons.1 hkey with rfl | hkey
      · exact List.mem_cons_self
      · exact List.mem_cons_of_mem _ (ih hrest hkey)
    | arr | obj => cases hentry

theorem payload_eq (h : Store.Confined own R) (hindex : own Store.indexKey = true)
    (hde : Related R d e) : payload d = payload e := by
  rw [payload, payload, ← h.days hde.store hindex]
  cases hdays : d.store.days with
  | error reason => rfl
  | ok entries =>
    rw [ok_bind, ok_bind]
    cases hkeys : (distinct entries).mapM keyOf with
    | error reason => rfl
    | ok keys =>
      rw [ok_bind, ok_bind]
      refine mapM_congr fun key hkey ↦ ?_
      have hmem := mem_of_distinct (scalar_mem_of_mapM_keyOf hkeys hkey)
      rw [h.list hde.store (listing_days h hindex hde hdays key hmem)]

theorem alike_save (h : Store.Confined own R) (hindex : own Store.indexKey = true)
    (typed : Option String) :
    Alike (Related R) (save typed) (save typed) := by
  refine .get_bind fun d e hde ↦ ?_
  rw [payload_eq h hindex hde, hde.resolve]
  exact .bind (.ofExcept _) fun _ ↦ .ite (fun _ ↦ .pure _) fun _ ↦ .bind (.ofExcept _) fun _ ↦
    .bind (alike_write _ _) fun _ ↦ .pure _

theorem alike_clearEntry (h : Store.Confined own R) (kept : List String) {entry : Json}
    (hentry : ∀ key, entry = .scalar key → own key = true) :
    Alike R (clearEntry kept entry) (clearEntry kept entry) := by
  cases entry with
  | scalar key =>
    exact .ite (fun _ ↦ .pure _) fun _ ↦
      h.writeRecords (hentry key rfl) fun _ _ hk ↦ absurd hk List.not_mem_nil
  | arr | obj => exact .fail

/-- Only what the index lists is cleared, and only days are written. -/
theorem alike_replace (h : Store.Confined own R) (hindex : own Store.indexKey = true)
    {days : List (String × List Json)}
    (hdays : ∀ day ∈ days, Store.isDayKey day.1 = true ∧ own day.1 = true) :
    Alike R (replace days) (replace days) := by
  refine .get_bind fun s t hst ↦ ?_
  rw [← h.days hst hindex]
  refine .bind_of_yields (p := Store.Listing own) (.ofExcept _) (fun _ _ _ entries hentries ↦ ?_)
    fun entries hentries ↦ ?_
  · rw [perform_ofExcept] at hentries
    obtain ⟨index, hlist, hsorted⟩ := bind_eq_ok hentries
    exact fun k hk ↦ h.listed hst hindex hlist k (Store.mem_of_sorted hsorted hk)
  · refine .bind (.forM fun entry hentry ↦ ?_) fun _ ↦ .forM fun day hday ↦ ?_
    · exact alike_clearEntry h _ fun key heq ↦ hentries key (heq ▸ hentry)
    · exact h.writeRecords (hdays day hday).2 fun heq ↦
        absurd heq (Store.ne_indexKey_of_isDayKey (hdays day hday).1)

theorem alike_load (h : Store.Confined own R) (hown : Owned own) (typed : Option String) :
    Alike (Related R) (load typed) (load typed) := by
  refine alike_reading fun path v ↦ ?_
  split
  · exact .refuse _
  · rename_i days hsome
    have hdays := (daysOf?_eq_some.1 hsome).2
    have hkeys : ∀ day ∈ days, Store.isDayKey day.1 = true ∧ own day.1 = true := by
      intro day hday
      have hkey := isDayKey_of_isDigitsKey (hdays day hday).1
      exact ⟨hkey, hown.day hkey⟩
    exact .bind (alike_onStore (alike_replace h hown.index hkeys)) fun _ ↦ .pure _

end Agenda

end Organizer
