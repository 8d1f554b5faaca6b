import Organizer.Proofs.App.ErrorAnswers
import Organizer.Proofs.App.Running
import Organizer.Proofs.Collection.Confining
import Organizer.Proofs.Timer.Confining
import Organizer.Session

/-!
# Commands keep to their own part of the state

The first of some words decides what part of the state they can be about (`Part.ofWords`): the key
of a collection, the keys of the calendar, the slot of a timer, or nothing. Two things are true of
every command (`commands_confined`). It leaves all other entries of the store and the other slot
alone, even if it fails; and it cannot tell two states apart that agree on its own part, on the
time, the files and the defaults, but makes the same of both.

The keys of the calendar are not fixed. Loading an agenda clears whatever the calendar index lists,
and a person who has edited the index can have listed any key there; so all listed keys belong to
the calendar, even that of another collection (`not_always_confined`). And a file holds the whole
mapping: a value under a foreign key that cannot be written makes a command fail that has written
nothing of the kind.
-/

namespace Organizer

open Organizer.Action

/-! ### Parts of the state -/

/-- What a command is about. -/
inductive Part
  | nothing
  | records (kind : RecordKind)
  | calendar
  | slot (kind : TimerKind)
  deriving DecidableEq, Repr

namespace Part

/-- The part of the command that words make: it depends on the first word alone. -/
def ofWords : List String → Part
  | [] => .nothing
  | w :: _ =>
    if Links.isAddress w then .nothing
    else
      match Help.canonical w with
      | "note" => .records .notes
      | "todo" => .records .todos
      | "link" => .records .links
      | "contact" => .records .contacts
      | "cal" => .calendar
      | "pomo" => .slot .pomodoro
      | "timer" => .slot .countdown
      | _ => .nothing

/-- Does the calendar index list the key? -/
def lists (s : Store) (key : Scalar) : Bool :=
  match s.list Store.indexKey with
  | .ok entries => entries.contains (.scalar key)
  | .error _ => false

/-- Does the key belong to the part? To the calendar belong the days, the index, and what the index
lists. -/
def owns (p : Part) (s : Store) (key : Scalar) : Bool :=
  match p with
  | .records kind => key = kind.collection.key
  | .calendar => Store.isDayKey key || key = Store.indexKey || lists s key
  | .nothing | .slot _ => false

/-- The slot that belongs to the part. -/
def slot? : Part → Option TimerKind
  | .slot kind => some kind
  | _ => none

/-- The keys that belong to the part whatever the calendar index lists. -/
structure Within (p : Part) (own : Scalar → Bool) : Prop where
  records : ∀ {kind}, p = .records kind → own kind.collection.key = true
  calendar : p = .calendar → Agenda.Owned own

theorem within_owns (p : Part) (s : Store) : p.Within (p.owns s) where
  records heq := by simp [heq, owns]
  calendar heq := ⟨by simp [heq, owns], fun hday ↦ by simp [heq, owns, hday]⟩

/-- Who has a day has the index. -/
theorem owns_index {p : Part} {s : Store} {key : Scalar} (hkey : p.owns s key = true)
    (hday : Store.isDayKey key = true) : p.owns s Store.indexKey = true := by
  cases p with
  | calendar => simp [owns]
  | records kind =>
    rw [owns, decide_eq_true_iff] at hkey
    rw [hkey, kind.isDayKey_key] at hday
    cases hday
  | nothing | slot => cases hkey

/-- Who has the index has what it lists. -/
theorem listing_owns {p : Part} {s : Store} (hindex : p.owns s Store.indexKey = true)
    {records : List Json} (hlist : s.list Store.indexKey = .ok records) :
    Store.Listing (p.owns s) records := by
  cases p with
  | calendar =>
    intro k hk
    simp [owns, lists, hlist, hk]
  | records kind =>
    rw [owns, decide_eq_true_iff] at hindex
    exact absurd (Scalar.text.inj hindex).symm kind.key_ne_indexKey
  | nothing | slot => cases hindex

end Part

/-! ### Requests have parts -/

namespace Request

/-- What a request is about. -/
def part : Request → Part
  | .list kind | .save kind _ | .load kind _ => .records kind
  | .addNote _ | .editNote _ | .deleteNote _ => .records .notes
  | .addTodo _ | .markDone _ => .records .todos
  | .addLink _ _ | .goLink _ | .renameLink _ _ | .deleteLink _ => .records .links
  | .addContact _ _ | .findContacts _ | .deleteContacts _ => .records .contacts
  | .month _ | .addEvent _ _ | .viewEvents _ | .saveAgenda _ | .loadAgenda _ => .calendar
  | .startPomodoro _ _ | .stopPomodoro => .slot .pomodoro
  | .startCountdown _ _ | .stopCountdown => .slot .countdown
  | .nothing | .openAddress _ | .help | .helpOn _ | .clear | .remind _ _ | .time
  | .calculate _ => .nothing

theorem part_ofNoteWords (words : List String) : (ofNoteWords words).part = .records .notes := by
  unfold ofNoteWords
  split <;> rfl

theorem part_ofTodoWords (words : List String) : (ofTodoWords words).part = .records .todos := by
  unfold ofTodoWords
  split <;> rfl

theorem part_ofLinkWords (words : List String) : (ofLinkWords words).part = .records .links := by
  unfold ofLinkWords
  split <;> rfl

variable {words : List String} {request : Request}

theorem part_ofContactWords (h : ofContactWords words = .ok request) :
    request.part = .records .contacts := by
  unfold ofContactWords at h
  split at h <;> cases h <;> rfl

theorem part_ofCalendarWords (h : ofCalendarWords words = .ok request) :
    request.part = .calendar := by
  unfold ofCalendarWords at h
  split at h
  case h_6 =>
    split at h <;> cases h
    rfl
  all_goals cases h
  all_goals rfl

theorem part_ofPomodoroWords (h : ofPomodoroWords words = .ok request) :
    request.part = .slot .pomodoro := by
  unfold ofPomodoroWords at h
  split at h <;> cases h <;> rfl

theorem part_ofTimerWords (h : ofTimerWords words = .ok request) :
    request.part = .slot .countdown := by
  unfold ofTimerWords at h
  split at h <;> cases h <;> rfl

/-- **What a request is about is decided by the first word.** -/
theorem part_ofWords (h : ofWords words = .ok request) : request.part = Part.ofWords words := by
  cases words with
  | nil =>
    cases h
    rfl
  | cons command args =>
    rw [ofWords] at h
    rw [Part.ofWords]
    split at h
    · cases h
      rw [if_pos ‹_›]
      rfl
    · rw [if_neg ‹_›]
      unfold ofCommand at h
      split at h
      · cases h
        cases args <;> simp [*, part]
      · cases h
        simp [*, part]
      · cases h
        simp [*, part_ofNoteWords]
      · cases h
        simp [*, part_ofTodoWords]
      · cases h
        simp [*, part_ofLinkWords]
      · simp [*, part_ofContactWords h]
      · simp [*, part_ofCalendarWords h]
      · simp [*, part_ofPomodoroWords h]
      · simp [*, part_ofTimerWords h]
      · split at h <;> cases h
        simp [*, part]
      · cases h
        simp [*, part]
      · split at h <;> cases h
        simp [*, part]
      · cases h

end Request

/-! ### Requests in two states -/

/-- Related schedulers answer the commands on the slot alike, and reminders if there is no slot. -/
structure Scheduler.Confined (kind? : Option TimerKind) (S : Scheduler → Scheduler → Prop) :
    Prop where
  startPomodoro : kind? = some .pomodoro → ∀ work rest,
    Alike S (startPomodoro work rest) (startPomodoro work rest)
  stopPomodoro : kind? = some .pomodoro → Alike S stopPomodoro stopPomodoro
  startCountdown : kind? = some .countdown → ∀ minutes message,
    Alike S (startCountdown minutes message) (startCountdown minutes message)
  stopCountdown : kind? = some .countdown → Alike S stopCountdown stopCountdown
  remind : kind? = none → ∀ now time message,
    Alike S (remind now time message) (remind now time message)

namespace App

/-- The desks are related, the schedulers are, and the time is the same. -/
structure Related (D : Desk → Desk → Prop) (S : Scheduler → Scheduler → Prop) (app app' : App) :
    Prop where
  desk : D app.desk app'.desk
  scheduler : S app.scheduler app'.scheduler
  now : app.now = app'.now

section

variable {α : Type} {own : Scalar → Bool} {R : Store → Store → Prop} {D : Desk → Desk → Prop}
  {S : Scheduler → Scheduler → Prop} {p : Part}

theorem alike_onDesk {a : Action Desk α} (h : Alike D a a) :
    Alike (Related D S) (onDesk a) (onDesk a) :=
  .within (fun _ _ happ ↦ happ.desk) (fun _ _ _ _ hd happ ↦ ⟨hd, happ.scheduler, happ.now⟩) h

theorem alike_onScheduler {a : Action Scheduler α} (h : Alike S a a) :
    Alike (Related D S) (onScheduler a) (onScheduler a) :=
  .within (fun _ _ happ ↦ happ.scheduler) (fun _ _ _ _ hs happ ↦ ⟨happ.desk, hs, happ.now⟩) h

theorem alike_view {f : Desk → Except Failure α} (hf : ∀ d e, D d e → f d = f e) :
    Alike (Related D S) (view f) (view f) :=
  .get_bind fun app _ happ ↦ hf _ _ happ.desk ▸ .ofExcept (f app.desk)

theorem alike_reporting {a b : Action App α} (report : Response → α)
    (h : Alike (Related D S) a b) :
    Alike (Related D S) (reporting report a) (reporting report b) := by
  intro app app' happ
  obtain ⟨hresult, hstate⟩ := h app app' happ
  rw [perform_reporting, perform_reporting]
  rcases ha : a.perform app with ⟨r, t⟩
  rcases hb : b.perform app' with ⟨r', t'⟩
  rw [ha, hb] at hresult hstate
  obtain rfl : r = r' := hresult
  rcases r with (reason | -) | x <;> exact ⟨rfl, hstate⟩

/-- **A request depends on its own part of the state** and changes nothing else. -/
theorem alike_answer (h : Store.Confined own R) (hS : Scheduler.Confined p.slot? S)
    (hown : p.Within own) {request : Request} (hp : request.part = p) :
    Alike (Related (Desk.Related R) S) (answer request) (answer request) := by
  subst hp
  cases request with
  | nothing | editNote term | help | clear => exact .pure _
  | openAddress address =>
    exact .bind (alike_onDesk (Desk.alike_openAddress _)) fun _ ↦ .pure _
  | helpOn topic =>
    rw [answer]
    split
    · exact .pure _
    · exact .refuse _
  | list kind =>
    exact alike_view fun _ _ hde ↦ Collection.list_eq h hde (hown.records rfl)
  | save kind path => exact alike_onDesk (Collection.alike_save h (hown.records rfl) path)
  | load kind path =>
    exact alike_onDesk (Collection.alike_load h (hown.records rfl)
      (mt Scalar.text.inj kind.key_ne_indexKey) path)
  | addNote text => exact alike_onDesk (Notes.alike_add (hown.records rfl) h text)
  | deleteNote term => exact alike_onDesk (Notes.alike_delete (hown.records rfl) h term)
  | addTodo text => exact alike_onDesk (Todos.alike_add (hown.records rfl) h text)
  | markDone word => exact alike_onDesk (Todos.alike_markDone (hown.records rfl) h word)
  | addLink address name =>
    exact alike_onDesk (Links.alike_add (hown.records rfl) h address name)
  | goLink term => exact alike_onDesk (Links.alike_go (hown.records rfl) h term)
  | renameLink term newName =>
    exact alike_onDesk (Links.alike_rename (hown.records rfl) h term newName)
  | deleteLink term => exact alike_onDesk (Links.alike_delete (hown.records rfl) h term)
  | addContact name info =>
    exact alike_onDesk (Contacts.alike_add (hown.records rfl) h name info)
  | findContacts term =>
    exact alike_view fun _ _ hde ↦ Contacts.find_eq (hown.records rfl) h hde term
  | deleteContacts name => exact alike_onDesk (Contacts.alike_delete (hown.records rfl) h name)
  | month typed =>
    exact .get_bind fun app _ happ ↦ happ.now ▸ .ofExcept (Agenda.month app.now.date typed)
  | addEvent day text =>
    exact alike_onDesk (Agenda.alike_add h day (hown.calendar rfl).ofText text)
  | viewEvents day => exact alike_view fun _ _ hde ↦ Agenda.view_eq h (hown.calendar rfl) hde day
  | saveAgenda path => exact alike_onDesk (Agenda.alike_save h (hown.calendar rfl).index path)
  | loadAgenda path => exact alike_onDesk (Agenda.alike_load h (hown.calendar rfl) path)
  | startPomodoro work rest =>
    exact .bind (alike_onScheduler (hS.startPomodoro rfl _ _)) fun _ ↦ .pure _
  | stopPomodoro => exact .bind (alike_onScheduler (hS.stopPomodoro rfl)) fun _ ↦ .pure _
  | startCountdown minutes message =>
    exact .bind (alike_onScheduler (hS.startCountdown rfl _ _)) fun _ ↦ .pure _
  | stopCountdown => exact .bind (alike_onScheduler (hS.stopCountdown rfl)) fun _ ↦ .pure _
  | remind time message =>
    refine .get_bind fun app app' happ ↦ ?_
    rw [happ.now]
    exact .bind (alike_onScheduler (hS.remind rfl _ _ _)) fun _ ↦ .pure _
  | time => exact .get_bind fun app _ happ ↦ happ.now ▸ .pure _
  | calculate expression => exact .ofExcept _

theorem alike_carryOut (h : Store.Confined own R) (hS : Scheduler.Confined p.slot? S)
    (hown : p.Within own) {request : Request} (hp : request.part = p) :
    Alike (Related (Desk.Related R) S) (carryOut request) (carryOut request) := by
  unfold carryOut
  split
  · subst hp
    exact .bind (alike_view fun _ _ hde ↦ Notes.beginEdit_eq (hown.records rfl) h hde _)
      fun _ ↦ .pure _
  · exact .bind (alike_answer h hS hown hp) fun _ ↦ .pure _

/-- Words that are refused are refused in every state. -/
theorem alike_dispatch (h : Store.Confined own R) {words : List String}
    (hS : Scheduler.Confined (Part.ofWords words).slot? S)
    (hown : (Part.ofWords words).Within own) :
    Alike (Related (Desk.Related R) S) (dispatch words) (dispatch words) := by
  unfold dispatch
  refine alike_reporting _ ?_
  cases hrequest : Request.ofWords words with
  | ok request => exact alike_carryOut h hS hown (Request.part_ofWords hrequest)
  | error reason => exact .refuse _

/-- Words that lead to an editor are about notes. -/
theorem part_of_editing {words : List String} {app app' : App} {place : Nat} {text : String}
    (h : (dispatch words).perform app = (.ok (.editing place text), app')) :
    Part.ofWords words = .records .notes := by
  rcases dispatch_eq_ok h with ⟨request, hrequest, hcarry⟩ | ⟨reason, -, hanswer⟩
  · rw [← Request.part_ofWords hrequest]
    unfold carryOut at hcarry
    split at hcarry
    · rfl
    · obtain ⟨responses, u, -, hanswer⟩ := perform_bind_eq_ok.1 hcarry
      cases hanswer
  · cases hanswer

theorem alike_dispatchWith (h : Store.Confined own R) (editor : Editor) {words : List String}
    (hS : Scheduler.Confined (Part.ofWords words).slot? S)
    (hown : (Part.ofWords words).Within own) :
    Alike (Related (Desk.Related R) S) (dispatchWith editor words) (dispatchWith editor words) := by
  refine .bind_of_yields (p := fun progress ↦ ∀ place text, progress = .editing place text →
    Part.ofWords words = .records .notes) (alike_dispatch h hS hown)
    (fun app _ _ progress hprogress place text heq ↦ ?_) fun progress hprogress ↦ ?_
  · obtain ⟨app', hdispatch⟩ := exists_perform_eq hprogress
    exact part_of_editing (heq ▸ hdispatch)
  · cases progress with
    | answered responses => exact .pure _
    | editing place text =>
      have hkey := hown.records (hprogress place text rfl)
      exact alike_reporting _ (alike_onDesk (Notes.alike_finishEdit hkey h place _))

end

end App

/-! ### Every command -/

namespace Scheduler

/-- One scheduler answers all commands in one way. -/
theorem confined_eq (kind? : Option TimerKind) : Confined kind? (· = ·) where
  startPomodoro _ _ _ := .refl _
  stopPomodoro _ := .refl _
  startCountdown _ _ _ := .refl _
  stopCountdown _ := .refl _
  remind _ _ _ _ := .refl _

/-- Schedulers that agree on a slot answer its commands alike. -/
theorem confined_agree (kind? : Option TimerKind) : Confined kind? (Agree kind?) where
  startPomodoro h := h ▸ alike_startPomodoro
  stopPomodoro h := h ▸ alike_stopPomodoro
  startCountdown h := h ▸ alike_startCountdown
  stopCountdown h := h ▸ alike_stopCountdown
  remind h := h ▸ alike_remind

theorem ne_of_part {kind? : Option TimerKind} {kind other : TimerKind} (h : kind? = some kind)
    (hother : kind? ≠ some other) : other ≠ kind :=
  fun heq ↦ hother (heq ▸ h)

/-- The commands on one slot leave the other alone, and a reminder both. -/
theorem confined_slots (kind? : Option TimerKind) (slots : TimerKind → Slot) :
    Confined kind? fun s t ↦
      s = t ∧ ∀ other, kind? ≠ some other → s.slot other = slots other where
  startPomodoro h work rest := .of_preserves <| preserves_forall fun _ hother ↦
    preserves_startPomodoro (ne_of_part h hother) work rest
  stopPomodoro h := .of_preserves <| preserves_forall fun _ hother ↦
    .bind (preserves_stopSlot (ne_of_part h hother)) fun _ _ ↦ .pure trivial
  startCountdown h minutes message := .of_preserves <| preserves_forall fun _ hother ↦
    preserves_startCountdown (ne_of_part h hother) minutes message
  stopCountdown h := .of_preserves <| preserves_forall fun _ hother ↦
    .bind (preserves_stopSlot (ne_of_part h hother)) fun _ _ ↦ .pure trivial
  remind _ now time message := .of_preserves <| preserves_forall fun _ _ ↦
    preserves_remind now time message

end Scheduler

namespace Session

theorem app_enrolAll (s : Session) : s.enrolAll.app = s.app := by
  rw [enrolAll]
  induction s.schedulers.zipIdx generalizing s with
  | nil => rfl
  | cons scheduler schedulers ih => exact ih _

/-- A callback of a timer acts on the scheduler that the timer belongs to, and on nothing else. -/
theorem fire_confined (s : Session) (number : Nat) :
    (s.fire number).app.desk = s.app.desk ∧ (s.fire number).app.history = s.app.history := by
  rw [fire]
  split
  · exact ⟨rfl, rfl⟩
  · split <;> rw [app_enrolAll] <;> exact ⟨rfl, rfl⟩

end Session

namespace App

variable {own : Scalar → Bool} {E : Fields → Fields → Prop} {slot? : Option TimerKind}

/-- The states agree on the own entries, in the sense of `E`, and on the own slot; and the files,
the places where to look for them, the time and the lengths of a session by default are the same. If
the stores are in files, then what is not their own part can be written in both or in neither. -/
structure Agree (own : Scalar → Bool) (E : Fields → Fields → Prop) (slot? : Option TimerKind)
    (app app' : App) : Prop where
  entries : E app.desk.store.entries app'.desk.store.entries
  backing : app.desk.store.backing = .memory ∧ app'.desk.store.backing = .memory ∨
    app.desk.store.backing ≠ .memory ∧ app'.desk.store.backing ≠ .memory ∧
      (Json.obj (Store.otherPart own app.desk.store.entries)).isWritable =
        (Json.obj (Store.otherPart own app'.desk.store.entries)).isWritable
  files : app.desk.files = app'.desk.files
  home : app.desk.home = app'.desk.home
  savedFiles : app.desk.savedFiles = app'.desk.savedFiles
  scheduler : Scheduler.Agree slot? app.scheduler app'.scheduler
  now : app.now = app'.now

theorem Agree.related {app app' : App} (h : Agree own E slot? app app')
    (hlisted : own Store.indexKey = true → ∀ {records},
      app.desk.store.list Store.indexKey = .ok records → Store.Listing own records) :
    Related (Desk.Related (Store.Related own E)) (Scheduler.Agree slot?) app app' :=
  ⟨⟨⟨h.entries, h.backing, hlisted⟩, h.files, h.home, h.savedFiles⟩, h.scheduler, h.now⟩

theorem Related.agree {app app' : App}
    (h : Related (Desk.Related (Store.Related own E)) (Scheduler.Agree slot?) app app') :
    Agree own E slot? app app' :=
  ⟨h.desk.store.entries, h.desk.store.backing, h.desk.files, h.desk.home, h.desk.savedFiles,
    h.scheduler, h.now⟩

section

variable (editor : Editor) (words : List String)

/-- Two states that agree on the part of a command are the same to it. -/
theorem agree_dispatchWith {app app' : App}
    (hown : own = (Part.ofWords words).owns app.desk.store) (hE : Store.Entrywise own E)
    (h : Agree own E (Part.ofWords words).slot? app app') :
    ((dispatchWith editor words).perform app).1 = ((dispatchWith editor words).perform app').1 ∧
      Agree own E (Part.ofWords words).slot? ((dispatchWith editor words).perform app).2
        ((dispatchWith editor words).perform app').2 := by
  subst hown
  obtain ⟨hresult, hstate⟩ := alike_dispatchWith (hE.confined Part.owns_index) editor
    (Scheduler.confined_agree _) (Part.within_owns _ _) app app' (h.related Part.listing_owns)
  exact ⟨hresult, hstate.agree⟩

/-- A command leaves alone what does not belong to its part. -/
theorem dispatchWith_leaves (app : App) :
    let own := (Part.ofWords words).owns app.desk.store
    let app' := ((dispatchWith editor words).perform app).2
    Store.otherPart own app'.desk.store.entries = Store.otherPart own app.desk.store.entries ∧
      ∀ kind, (Part.ofWords words).slot? ≠ some kind →
        app'.scheduler.slot kind = app.scheduler.slot kind := by
  intro own app'
  have hbacking : app.desk.store.backing = .memory ∧ app.desk.store.backing = .memory ∨
      app.desk.store.backing ≠ .memory ∧ app.desk.store.backing ≠ .memory ∧
        (Json.obj (Store.otherPart own app.desk.store.entries)).isWritable =
          (Json.obj (Store.otherPart own app.desk.store.entries)).isWritable := by
    by_cases hmemory : app.desk.store.backing = .memory <;> simp [hmemory]
  obtain ⟨-, hstate⟩ := alike_dispatchWith
    ((Store.entrywise_leaves own (Store.otherPart own app.desk.store.entries)).confined
      Part.owns_index) editor
    (Scheduler.confined_slots _ app.scheduler.slot) (Part.within_owns _ _) app app
    ⟨⟨⟨⟨rfl, rfl⟩, hbacking, Part.listing_owns⟩, rfl, rfl, rfl⟩, ⟨rfl, fun _ _ ↦ rfl⟩, rfl⟩
  exact ⟨hstate.desk.store.entries.2, hstate.scheduler.2⟩

end

/-- **Commands keep to their own part of the state.** Whatever the words and the texts that the
editor gives. First, in every state: all entries under keys that do not belong to the command stay,
with their values and in their order, and so does a slot that does not. Second, a callback of a
timer changes neither the store nor any file nor the history. Third, two states that agree on what
belongs to the command get the same answer or the same failure, and agree on it afterwards: on the
values under its keys, and if the keys stood in the same order, then on the order as well. -/
theorem commands_confined (editor : Editor) (words : List String) :
    (∀ app : App,
      let own := (Part.ofWords words).owns app.desk.store
      let app' := ((dispatchWith editor words).perform app).2
      Store.otherPart own app'.desk.store.entries = Store.otherPart own app.desk.store.entries ∧
        ∀ kind, (Part.ofWords words).slot? ≠ some kind →
          app'.scheduler.slot kind = app.scheduler.slot kind) ∧
    (∀ (s : Session) (number : Nat),
      (s.fire number).app.desk = s.app.desk ∧ (s.fire number).app.history = s.app.history) ∧
    ∀ app app' : App,
      let own := (Part.ofWords words).owns app.desk.store
      ∀ E, E = Store.SameValues own ∨ E = Store.SameEntries own →
        Agree own E (Part.ofWords words).slot? app app' →
        ((dispatchWith editor words).perform app).1 =
          ((dispatchWith editor words).perform app').1 ∧
        Agree own E (Part.ofWords words).slot? ((dispatchWith editor words).perform app).2
          ((dispatchWith editor words).perform app').2 := by
  refine ⟨dispatchWith_leaves editor words, Session.fire_confined, ?_⟩
  rintro app app' own E (rfl | rfl) h
  · exact agree_dispatchWith editor words rfl (Store.entrywise_sameValues own) h
  · exact agree_dispatchWith editor words rfl (Store.entrywise_sameEntries own) h

/-- A note, and other entries next to it, kept in memory or in a file. There is an empty agenda to
be loaded. -/
def withNote (backing : Backing) (others : Fields) : App where
  desk := {
    store := ⟨others ++ [(.text "notes", .arr [.str "a"])], backing⟩
    files := ⟨[(["home"], .directory), (["home", "saved"], .directory),
      (["home", "saved", "calendar.txt"], .file "\x7b\x7d".toUTF8)]⟩
    home := ⟨.slash, ["home"]⟩
    savedFiles := ⟨.slash, ["home", "saved"]⟩ }
  scheduler := { defaults := ⟨25, 5⟩ }
  now := { date := ⟨2024, 2, 29⟩ }

/-- A person among the other entries makes no difference to a new note, and stays. -/
theorem commands_confined_note :
    let ada : Fields := [(.text "contacts", .arr [.str "Ada"])]
    let editor : Editor := fun _ _ ↦ none
    let words := ["note", "add", "tea"]
    let own := (Part.ofWords words).owns (withNote .memory ada).desk.store
    ((dispatchWith editor words).perform (withNote .memory ada)).1 =
        ((dispatchWith editor words).perform (withNote .memory [])).1 ∧
      Store.otherPart own
          ((dispatchWith editor words).perform (withNote .memory ada)).2.desk.store.entries =
        ada := by
  intro ada editor words own
  obtain ⟨hleaves, -, hagree⟩ := commands_confined editor words
  have hentries : Store.ownPart own (withNote .memory ada).desk.store.entries =
      Store.ownPart own (withNote .memory []).desk.store.entries := by decide +kernel
  have hslot : (Part.ofWords words).slot? = none := by decide +kernel
  constructor
  · refine (hagree (withNote .memory ada) (withNote .memory []) _ (.inr rfl)
      ⟨hentries, .inl ⟨rfl, rfl⟩, rfl, rfl, rfl, ⟨rfl, fun kind hkind ↦ ?_⟩, rfl⟩).1
    exact absurd (hslot.symm.trans hkind) (by simp)
  · exact (hleaves (withNote .memory ada)).1.trans (by decide +kernel)

/-- **Commands are not always confined.** The notes are listed in the calendar index, and an agenda
is loaded: the notes are cleared. And of two states in files that differ only in a link, one cannot
be written: a new note fails there. -/
theorem not_always_confined :
    (¬ ∀ (editor : Editor) (app : App) (args : List String) (key : Scalar),
      Store.isDayKey key = false → key ≠ Store.indexKey →
      ((dispatchWith editor ("cal" :: args)).perform app).2.desk.store.entries.get? key =
        app.desk.store.entries.get? key) ∧
    ¬ ∀ (editor : Editor) (app app' : App) (args : List String),
      app.desk.store.backing = app'.desk.store.backing → app.desk.files = app'.desk.files →
      app.desk.home = app'.desk.home → app.desk.savedFiles = app'.desk.savedFiles →
      app.scheduler = app'.scheduler → app.now = app'.now →
      app.desk.store.entries.get? (.text "notes") = app'.desk.store.entries.get? (.text "notes") →
      ((dispatchWith editor ("note" :: args)).perform app).1 =
        ((dispatchWith editor ("note" :: args)).perform app').1 := by
  constructor
  · intro h
    exact absurd (h (fun _ _ ↦ none)
      (withNote .memory [(Store.indexKey, .arr [.str "notes"])]) ["open"] (.text "notes")
      (by decide +kernel) (by decide +kernel)) (by decide +kernel)
  · intro h
    exact absurd (h (fun _ _ ↦ none) (withNote (.file []) [])
      (withNote (.file []) [(.text "links", .arr [.scalar (.torn [.half 0])])]) ["add", "tea"]
      rfl rfl rfl rfl rfl rfl (by decide +kernel)) (by decide +kernel)

end App

end Organizer
