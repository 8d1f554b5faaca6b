import Organizer.Proofs.App.Running
import Organizer.Proofs.Calendar.RealDays
import Organizer.Proofs.Collection.Appending
import Organizer.Proofs.Collection.Restoring
import Organizer.Proofs.CommandLine.Spelling

/-!
# Texts are kept as they are typed

Each collection has a command that adds a record, and the texts of the record can be typed in quotes
(`Addition`). On their way into the store they pass through many hands: the line is stripped and
split into words, the words make a request and are joined again, the request is checked, and the
record is written out with all others. None of these changes a text, whatever blanks it begins with,
ends with or holds, unless the command is meant to: a link is named without the blanks at the ends
of its name, and its address is written in full (`added_as_typed`).

Two things are asked of a text, that it holds no quote and that it is not blank. Everything else is
a matter of the store: it has to be one that is reached from an empty store, because what a person
has written into its file may be no list or no index, and its mapping has to be one that can be
written out.
-/

namespace Organizer

open Organizer.Action Json CommandLine

/-! ### What is typed -/

/-- A text that can be typed in quotes for a command. -/
structure QuotableText where
  text : String
  not_blank : Text.allBlank text = false
  quote_not_mem : '"' ∉ text.toList

/-- A day that is accepted as it is typed, and its key. -/
structure AcceptedDay where
  typed : String
  key : String
  accepted : DayKey.ofText typed = .ok key

/-- What a person adds to a collection. -/
inductive Addition
  | note (text : QuotableText)
  | todo (text : QuotableText)
  | contact (name info : QuotableText)
  | link (address name : QuotableText)
  | event (day : AcceptedDay) (text : QuotableText)

namespace Addition

/-- What is typed in front of the texts. -/
def command : Addition → List String
  | note _ => ["note", "add"]
  | todo _ => ["todo", "add"]
  | contact _ _ => ["contact", "add"]
  | link _ _ => ["link", "add"]
  | event day _ => ["cal", "add", day.typed]

/-- The texts, in the order in which they are typed. -/
def texts : Addition → List QuotableText
  | note text | todo text | event _ text => [text]
  | contact name info => [name, info]
  | link address name => [address, name]

/-- The line that is typed, with the texts in quotes. -/
def line (a : Addition) : String :=
  Request.joined (a.command ++ a.texts.map fun t ↦ quoted t.text)

/-- The key under which the record is added. -/
def key : Addition → Scalar
  | note _ => Notes.collection.key
  | todo _ => Todos.collection.key
  | contact _ _ => Contacts.collection.key
  | link _ _ => Links.collection.key
  | event day _ => day.key

/-- The record that is added. -/
def record : Addition → Json
  | note text | event _ text => .str text.text
  | todo text => .obj [("text", .str text.text), ("done", .bool false)]
  | contact name info => .obj [("name", .str name.text), ("info", .str info.text)]
  | link address name => .obj [("name", .str (Text.strip name.text)),
      ("url", .str (Links.fullAddress address.text))]

/-- The request that the line makes. -/
def request : Addition → Request
  | note text => .addNote text.text
  | todo text => .addTodo text.text
  | contact name info => .addContact name.text info.text
  | link address name => .addLink address.text name.text
  | event day text => .addEvent day.typed text.text

end Addition

/-! ### From the line to the request -/

namespace QuotableText

variable (t : QuotableText)

theorem toList_ne_nil : t.text.toList ≠ [] := by
  intro hnil
  have hblank := t.not_blank
  rw [Text.allBlank, hnil] at hblank
  cases hblank

theorem standsFor : StandsFor (quoted t.text) t.text := .quoted t.toList_ne_nil t.quote_not_mem

end QuotableText

/-- No digit of any script is a blank or a quote. -/
theorem isBare_of_isDigit {c : Char} (h : Text.isDigit c = true) : isBare c = true := by
  have hdigits : ∀ z ∈ Text.digitZeros, ∀ d < 10, isBare (Char.ofNat (z + d)) = true := by
    decide +kernel
  obtain ⟨z, hz, d, hd, heq⟩ := DayKey.exists_zero_of_isDigit h
  rw [← Char.ofNat_toNat c, heq]
  exact hdigits z hz d hd

/-- A day that is accepted needs no quotes. -/
theorem AcceptedDay.standsFor (day : AcceptedDay) : StandsFor day.typed day.typed := by
  obtain ⟨-, hlength, hdigits⟩ := DayKey.digits_of_ofText day.accepted
  exact .bare (List.ne_nil_of_length_pos (by omega)) fun c hc ↦ isBare_of_isDigit (hdigits c hc)

namespace Addition

variable (a : Addition)

/-- The words in front of the texts need no quotes. -/
theorem standsFor_command : ∀ word ∈ a.command, StandsFor word word := by
  have hbare : ∀ word ∈ ["note", "todo", "contact", "link", "cal", "add"],
      word.toList ≠ [] ∧ word.toList.all isBare = true := by decide +kernel
  have hword {word : String} (h : word ∈ ["note", "todo", "contact", "link", "cal", "add"]) :
      StandsFor word word := .bare (hbare word h).1 (List.all_eq_true.1 (hbare word h).2)
  cases a with
  | event day text =>
    exact List.forall_mem_cons.2 ⟨hword (by simp),
      List.forall_mem_cons.2 ⟨hword (by simp), List.forall_mem_singleton.2 day.standsFor⟩⟩
  | _ =>
    exact List.forall_mem_cons.2 ⟨hword (by simp),
      List.forall_mem_singleton.2 (hword (by simp))⟩

theorem standsFor_line : List.Forall₂ StandsFor (a.command ++ a.texts.map fun t ↦ quoted t.text)
    (a.command ++ a.texts.map QuotableText.text) := by
  refine List.rel_append (List.forall₂_same.2 a.standsFor_command) ?_
  rw [List.forall₂_map_left_iff, List.forall₂_map_right_iff]
  exact List.forall₂_same.2 fun t _ ↦ t.standsFor

/-- The words of the line make the request. -/
theorem ofWords_line : Request.ofWords (words a.line) = .ok a.request := by
  rw [line, words_joined a.standsFor_line]
  -- what is joined again is one word
  cases a with
  | note text => exact congrArg (fun s ↦ Except.ok (Request.addNote s)) (joined_singleton text.text)
  | todo text => exact congrArg (fun s ↦ Except.ok (Request.addTodo s)) (joined_singleton text.text)
  | contact name info =>
    exact congrArg (fun s ↦ Except.ok (Request.addContact name.text s)) (joined_singleton info.text)
  | link address name =>
    exact congrArg (fun s ↦ Except.ok (Request.addLink address.text s)) (joined_singleton name.text)
  | event day text =>
    exact congrArg (fun s ↦ Except.ok (Request.addEvent day.typed s)) (joined_singleton text.text)

theorem typed_ne_nil : a.command ++ a.texts.map (fun t ↦ quoted t.text) ≠ [] := by
  cases a <;> exact List.cons_ne_nil _ _

theorem strip_line : Text.strip a.line = a.line := strip_joined a.standsFor_line a.typed_ne_nil

theorem isEmpty_line : a.line.isEmpty = false := isEmpty_joined a.standsFor_line a.typed_ne_nil

end Addition

/-! ### From the request to the store -/

theorem QuotableText.not_blankRecord (t : QuotableText) :
    Store.isBlankRecord (.str t.text) = false := by
  have hsome : t.text ≠ "" := fun hempty ↦ t.toList_ne_nil (by rw [hempty]; rfl)
  have hblank : Store.isBlankText (.str t.text) = false := t.not_blank
  rw [Store.isBlankRecord, hblank, Bool.or_false]
  simpa [isNothing, Scalar.isNothing] using hsome

namespace Addition

variable (a : Addition)

theorem depth_record : a.record.depth ≤ 1 := by
  cases a with
  | note | event => exact Nat.zero_le 1
  | todo | contact | link => exact Nat.le_refl 1

/-- **The record can be added under its key.** -/
theorem addable : Store.Addable a.key a.record := by
  have hshallow : a.record.depth < Store.maxKept := Nat.lt_of_le_of_lt a.depth_record (by decide)
  cases a with
  | note text =>
    exact ⟨Store.isForeign_key .notes, Notes.fits_note text.text, rfl, hshallow,
      text.not_blankRecord⟩
  | todo text =>
    exact ⟨Store.isForeign_key .todos, fits_record .todos (asRead_pair (by decide) rfl rfl) rfl,
      rfl, hshallow, rfl⟩
  | contact name info =>
    exact ⟨Store.isForeign_key .contacts,
      fits_record .contacts (asRead_pair (by decide) rfl rfl) rfl, rfl, hshallow, rfl⟩
  | link address name =>
    exact ⟨Store.isForeign_key .links, fits_record .links (asRead_pair (by decide) rfl rfl) rfl,
      rfl, hshallow, rfl⟩
  | event day text =>
    have hday := Agenda.isDigitsKey_of_ofText day.accepted
    exact ⟨Store.isForeign_day (isDayKey_of_isDigitsKey hday), fits_event hday rfl, rfl, hshallow,
      text.not_blankRecord⟩

/-- Once the request is checked, all that is left to do is to add the record. -/
theorem exists_answer_eq : ∃ responses, App.answer a.request = App.onDesk (do
    Desk.onStore (Store.append a.key a.record)
    return responses) := by
  cases a with
  | note text => exact ⟨_, rfl⟩
  | todo text =>
    rw [request, App.answer, Todos.add, if_neg (by simp [text.not_blank])]
    exact ⟨_, rfl⟩
  | contact name info =>
    rw [request, App.answer, Contacts.add, if_neg (by simp [name.not_blank, info.not_blank])]
    exact ⟨_, rfl⟩
  | link address name =>
    rw [request, App.answer, Links.add, if_neg (by simp [address.not_blank])]
    dsimp only
    rw [if_neg (by simp [name.not_blank])]
    exact ⟨_, rfl⟩
  | event day text =>
    rw [request, App.answer, Agenda.add]
    simp only [Option.getD_some, day.accepted, text.not_blank]
    exact ⟨_, rfl⟩

end Addition

/-! ### The result -/

namespace App

variable {app : App} {t : Store}

theorem exists_perform_executeWith (editor : Editor) (a : Addition)
    (h : (Store.append a.key a.record).perform app.desk.store = (.ok (), t)) :
    ∃ responses, NoError responses ∧ (executeWith editor a.line).perform app =
      (.ok responses, { app with
        desk := { app.desk with store := t }
        history := app.history.record a.line }) := by
  obtain ⟨responses, hanswer⟩ := a.exists_answer_eq
  let heard : App := { app with history := app.history.record a.line }
  let added : App := { heard with desk := { app.desk with store := t } }
  have hdesk : (answer a.request).perform heard = (.ok responses, added) := by
    rw [hanswer, onDesk, perform_within, perform_bind, Desk.onStore, perform_within, h]
    rfl
  have hcarry : (carryOut a.request).perform heard = (.ok (.answered responses), added) := by
    cases a <;> exact perform_bind_of_ok hdesk
  refine ⟨responses, noError_of_carryOut hcarry, ?_⟩
  have hexecute : (execute a.line).perform app = (.ok (.answered responses), added) := by
    rw [perform_execute, a.strip_line, a.isEmpty_line, if_neg Bool.false_ne_true]
    exact perform_dispatch_of_ofWords a.ofWords_line hcarry
  exact perform_bind_of_ok hexecute

end App

/-- **Texts are kept as they are typed.** In every state that is reached from an empty store, by
requests that succeed or fail, by files of any content and by restarts, the line that adds a record
is answered without an error if the store can be written out, as it always can in memory. The record
comes last in its list, with the texts as they stand between the quotes; the earlier records of the
list are the same and in the same order, and so is all that stands under other keys, except that the
calendar index follows an event. If the store is opened again, the same is found. Nothing else
changes but the history, which has the line. -/
theorem added_as_typed {app : App} (hopen : Store.Opens [] app.desk.store)
    (events : List App.Event) (hsave : (app.after events).desk.store.canSave = true)
    (editor : Editor) (a : Addition) :
    ∃ responses t, App.NoError responses ∧
      (App.executeWith editor a.line).perform (app.after events) =
        (.ok responses, { app.after events with
          desk := { (app.after events).desk with store := t }
          history := (app.after events).history.record a.line }) ∧
      (app.after events).desk.store.Adds a.key a.record t := by
  obtain ⟨t, happend, hadds⟩ := a.addable.exists_perform (App.tidy_of_opens hopen events) hsave
  obtain ⟨responses, hnoError, hexecute⟩ := App.exists_perform_executeWith editor a happend
  exact ⟨responses, t, hnoError, hexecute, hadds⟩

/-- The organizer with its store in a file, when one person has been entered. -/
def App.filedAda : App :=
  (App.setUp (.file [Store.textOf [(Store.indexKey, .arr [])]])).after App.enterAda

/-- Another person is entered, with blanks at the ends of the name and of the details. -/
theorem added_as_typed_contact :
    ∃ responses t, App.NoError responses ∧
      (App.executeWith (fun _ _ ↦ none) "contact add \" Bob\t\" \"at home\n\"").perform
          App.filedAda =
        (.ok responses, { App.filedAda with
          desk := { App.filedAda.desk with store := t }
          history := App.filedAda.history.record "contact add \" Bob\t\" \"at home\n\"" }) ∧
      t.list "contacts" =
        .ok (contactAda ++ [.obj [("name", .str " Bob\t"), ("info", .str "at home\n")]]) := by
  have hopen : Store.Opens []
      (App.setUp (.file [Store.textOf [(Store.indexKey, .arr [])]])).desk.store :=
    .missing rfl (by decide +kernel)
  have hsave : App.filedAda.desk.store.canSave = true := by decide +kernel
  have hcontacts : App.filedAda.desk.store.list "contacts" = .ok contactAda := by decide +kernel
  let bob : Addition := .contact ⟨" Bob\t", by decide +kernel, by decide +kernel⟩
    ⟨"at home\n", by decide +kernel, by decide +kernel⟩
  obtain ⟨responses, t, hnoError, hexecute, hadds⟩ :=
    added_as_typed hopen App.enterAda hsave (fun _ _ ↦ none) bob
  obtain ⟨old, hlist, hadded⟩ := hadds.list
  obtain rfl := Except.ok.inj (hlist.symm.trans hcontacts)
  exact ⟨responses, t, hnoError, hexecute, hadded⟩

end Organizer
