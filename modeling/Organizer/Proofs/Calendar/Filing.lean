import Organizer.Proofs.App.Confinement
import Organizer.Proofs.Calendar.Listing
import Organizer.Proofs.Calendar.RealDays
import Organizer.Proofs.Store.Keys

/-!
# Under which keys events are filed

Events come into a calendar on two ways: one by one for a day that a person types, and with a file.
A day that is typed has to exist. Of a file only the form of its keys is looked at, six digits and
perhaps a line break, so that a file can bring days that do not exist; and since digits of other
scripts count as digits, the same day can be filed under two keys (`not_always_real`). In a run
without such files, and in which days are typed in ASCII, all events are filed under days that
exist, each day under one key only (`filed_under_real_days`).
-/

namespace Organizer

open Organizer.Action Store

/-! ### Keys and what they name -/

namespace DayKey

/-- The key is a text, and if it is that of a day, what stands behind the prefix has the
property. -/
def names (p : String → Bool) : Scalar → Bool
  | .text key =>
    !isDayKey key || p (String.ofList (key.toList.drop dayPrefix.toList.length))
  | _ => false

variable {p : String → Bool}

theorem isDayKey_append (day : String) : isDayKey (dayPrefix ++ day : String) = true := by
  rw [isDayKey, String.toList_append, List.isPrefixOf_iff_prefix]
  exact List.prefix_append _ _

theorem names_append (day : String) : names p (dayPrefix ++ day : String) = p day := by
  rw [names, isDayKey_append, String.toList_append, List.drop_left, String.ofList_toList]
  rfl

theorem names_of_not_day {key : String} (h : isDayKey key = false) : names p key = true := by
  rw [names, h]
  rfl

theorem isSpelled_of_names {key : Scalar} (h : names p key = true) : key.IsSpelled := by
  cases key with
  | text s => exact Scalar.isSpelled_text s
  | _ => cases h

/-- The key of a day is named by what stands behind the prefix. -/
theorem exists_day_of_names {key : Scalar} (h : names p key = true) (hday : isDayKey key = true) :
    ∃ day, key = .text (dayPrefix ++ day) ∧ p day = true := by
  cases key with
  | text s =>
    obtain ⟨day, rfl⟩ := Agenda.exists_eq_dayPrefix_append hday
    exact ⟨day, rfl, (names_append day).symm.trans h⟩
  | _ => cases h

end DayKey

/-! ### Requests -/

/-- If events are filed by the request, then under own keys. -/
def Request.Files (own : Scalar → Bool) (d : Desk) : Request → Prop
  | .addEvent day _ => ∀ {key : String}, DayKey.ofText (day.getD "") = .ok key → own key = true
  | .loadAgenda typed => ∀ {path v days}, d.resolve typed Agenda.fileName = .ok path →
      d.read path = .ok v → Agenda.daysOf? v = some days → ∀ day ∈ days, own (.text day.1) = true
  | _ => True

/-- If the request enters an event for a day that is accepted, the day is typed in ASCII; and if it
loads a file that is accepted, all days of the file exist. -/
def Request.KeepsToDates (d : Desk) : Request → Prop
  | .addEvent day _ => ∀ {key : String}, DayKey.ofText (day.getD "") = .ok key →
      ∀ c ∈ (day.getD "").toList, c.toNat < 128
  | .loadAgenda typed => ∀ {path v days}, d.resolve typed Agenda.fileName = .ok path →
      d.read path = .ok v → Agenda.daysOf? v = some days →
      ∀ day ∈ days, DayKey.names DayKey.isRealDay (.text day.1) = true
  | _ => True

theorem Request.KeepsToDates.files {request : Request} {d : Desk} (h : request.KeepsToDates d) :
    request.Files (DayKey.names DayKey.isRealDay) d := by
  cases request with
  | addEvent day text =>
    intro key hkey
    obtain ⟨hreal, rfl⟩ := (DayKey.ofText_eq_ok_iff (h hkey)).1 hkey
    exact (DayKey.names_append _).trans hreal
  | loadAgenda typed => exact h
  | _ => exact trivial

/-- Digits are asked of every day. -/
theorem Request.files_digits (request : Request) (d : Desk) :
    request.Files (DayKey.names fun day ↦ DayKey.isDigits 6 day.toList) d := by
  have hdigits {key : String} (h : DayKey.isDigitsKey key = true) :
      DayKey.names (fun day ↦ DayKey.isDigits 6 day.toList) key = true := by
    obtain ⟨hday, hdigits⟩ := Bool.and_eq_true_iff.1 h
    obtain ⟨day, rfl⟩ := Agenda.exists_eq_dayPrefix_append hday
    rw [String.toList_append, List.drop_left] at hdigits
    exact (DayKey.names_append _).trans hdigits
  cases request with
  | addEvent day text =>
    intro key hkey
    exact hdigits (Agenda.isDigitsKey_of_ofText hkey)
  | loadAgenda typed =>
    intro path v days _ _ hdays day hday
    exact hdigits ((Agenda.daysOf?_eq_some.1 hdays).2 day hday).1
  | _ => exact trivial

namespace Agenda

/-- To load an agenda replaces the old one by the days of a file, or changes nothing. -/
theorem load_cases (typed : Option String) (d : Desk) :
    ((load typed).perform d).2 = d ∨
      ∃ path v days, d.resolve typed fileName = .ok path ∧ d.read path = .ok v ∧
        daysOf? v = some days ∧
        ((load typed).perform d).2 = { d with store := ((replace days).perform d.store).2 } := by
  rw [load, perform_bind_of_ok (perform_get d), perform_bind, perform_ofExcept]
  rcases hpath : d.resolve typed fileName with e | path
  · exact .inl rfl
  · dsimp only
    rw [perform_bind, perform_ofExcept]
    rcases hread : d.read path with e | v
    · exact .inl rfl
    · dsimp only
      cases hdays : daysOf? v with
      | none => exact .inl rfl
      | some days =>
        refine .inr ⟨path, v, days, rfl, hread, hdays, ?_⟩
        dsimp only
        rw [perform_bind, Desk.onStore, perform_within]
        rcases (replace days).perform d.store with ⟨_ | _, _⟩ <;> rfl

end Agenda

/-! ### What requests leave behind -/

namespace App

section

variable {α : Type} {own : Scalar → Bool} {app : App}

/-- A state whose store has own keys is related to itself. -/
theorem related_self (h : HoldsOnly own app.desk.store) :
    Related (Desk.Related fun s t ↦ s = t ∧ HoldsOnly own s) (· = ·) app app :=
  ⟨⟨⟨rfl, h⟩, rfl, rfl, rfl⟩, rfl, rfl⟩

/-- An action that is confined to own keys leaves only own keys. -/
theorem preserves_of_alike {a : Action App α}
    (h : Alike (Related (Desk.Related fun s t ↦ s = t ∧ HoldsOnly own s) (· = ·)) a a) :
    Preserves (fun app ↦ HoldsOnly own app.desk.store) a :=
  fun app happ ↦ ⟨(h app app (related_self happ)).2.desk.store.2, .anything _⟩

end

section

variable {p : String → Bool} {app : App} {words : List String}

/-- What is done to keys that name what they should leaves only such keys. -/
theorem confined_names (p : String → Bool) :
    Confined (DayKey.names p) fun s t ↦ s = t ∧ HoldsOnly (DayKey.names p) s :=
  confined_holdsOnly (fun _ ↦ DayKey.isSpelled_of_names)
    (DayKey.names_of_not_day isDayKey_indexKey)

theorem names_key (kind : RecordKind) : DayKey.names p kind.collection.key = true :=
  DayKey.names_of_not_day kind.isDayKey_key

/-- Requests that are not about the calendar have no keys of days. -/
theorem within_names {part : Part} (h : part ≠ .calendar) : part.Within (DayKey.names p) where
  records _ := names_key _
  calendar heq := absurd heq h

/-- To load an agenda leaves only keys that name what they should, if its days do. -/
theorem names_load {d : Desk} (h : HoldsOnly (DayKey.names p) d.store) {typed : Option String}
    (hfiles : (Request.loadAgenda typed).Files (DayKey.names p) d) :
    HoldsOnly (DayKey.names p) ((Agenda.load typed).perform d).2.store := by
  rcases Agenda.load_cases typed d with hsame | ⟨path, v, days, hpath, hread, hdays, hload⟩
  · rwa [hsame]
  · rw [hload]
    have hkeys : ∀ day ∈ days, isDayKey day.1 = true ∧ DayKey.names p day.1 = true := by
      intro day hday
      have hdigits := ((Agenda.daysOf?_eq_some.1 hdays).2 day hday).1
      exact ⟨isDayKey_of_isDigitsKey hdigits, hfiles hpath hread hdays day hday⟩
    have hindex : DayKey.names p indexKey = true := DayKey.names_of_not_day isDayKey_indexKey
    exact (Agenda.alike_replace (confined_names p) hindex hkeys d.store d.store ⟨rfl, h⟩).2.2

/-- The keys of days in the store, and what the index lists, name what they should. -/
def Names (p : String → Bool) (app : App) : Prop := HoldsOnly (DayKey.names p) app.desk.store

/-- **A request leaves only keys that name what they should**, if it files events under such. -/
theorem names_answer (h : app.Names p) {request : Request}
    (hfiles : request.Files (DayKey.names p) app.desk) :
    ((answer request).perform app).2.Names p := by
  by_cases hpart : request.part = .calendar
  · cases request with
    | month typed =>
      have hreadOnly : ReadOnly (answer (.month typed)) := .bind .get fun _ ↦ .ofExcept _
      rwa [hreadOnly app]
    | viewEvents day => rwa [answer, readOnly_view _ app]
    | addEvent day text =>
      exact (preserves_of_alike (alike_onDesk
        (Agenda.alike_add (confined_names p) day hfiles text)) app h).1
    | saveAgenda path =>
      exact (preserves_of_alike (alike_onDesk (Agenda.alike_save (confined_names p)
        (DayKey.names_of_not_day isDayKey_indexKey) path)) app h).1
    | loadAgenda typed =>
      rw [answer, onDesk, perform_within]
      exact names_load h hfiles
    | _ => cases hpart
  · exact (preserves_of_alike (alike_answer (confined_names p) (Scheduler.confined_eq _)
      (within_names hpart) rfl) app h).1

/-! ### Words and lines -/

theorem names_carryOut (h : app.Names p) {request : Request}
    (hfiles : request.Files (DayKey.names p) app.desk) :
    ((carryOut request).perform app).2.Names p := by
  unfold carryOut
  split
  · exact holds_of_bind (by rwa [readOnly_view _ app]) fun _ ↦ .pure trivial
  · exact holds_of_bind (names_answer h hfiles) fun _ ↦ .pure trivial

theorem names_dispatch (h : app.Names p)
    (hfiles : ∀ request, Request.ofWords words = .ok request →
      request.Files (DayKey.names p) app.desk) :
    ((dispatch words).perform app).2.Names p := by
  rw [dispatch, snd_perform_reporting]
  cases hrequest : Request.ofWords words with
  | ok request => exact names_carryOut h (hfiles request hrequest)
  | error reason => exact h

theorem names_execute (h : app.Names p) {line : String}
    (hfiles : ∀ request, Request.ofWords (CommandLine.words (Text.strip line)) = .ok request →
      request.Files (DayKey.names p) app.desk) :
    ((execute line).perform app).2.Names p := by
  unfold execute
  generalize Text.strip line = stripped at hfiles ⊢
  dsimp only
  rw [perform_ite]
  split
  · exact h
  · rw [perform_bind_of_ok (perform_modify _ app)]
    exact names_dispatch h hfiles

/-- A note that is written in an editor is none of the days. -/
theorem preserves_complete_names (editor : Editor) (progress : Progress) :
    Preserves (Names p) (complete editor progress) := by
  cases progress with
  | answered responses => exact .pure trivial
  | editing place text =>
    exact preserves_reporting _ (preserves_of_alike (alike_onDesk
      (Notes.alike_finishEdit (names_key .notes) (confined_names p) place _)))

/-! ### Runs -/

/-- The request that an event makes. -/
def Event.request? : Event → Option Request
  | .words _ ws => (Request.ofWords ws).toOption
  | .line _ text => (Request.ofWords (CommandLine.words (Text.strip text))).toOption
  | .timer _ | .clock _ | .files _ | .restart => none

/-- Each request of a run has a property, which may depend on the desk that it finds. -/
def Along (P : Desk → Request → Prop) (app : App) : List Event → Prop
  | [] => True
  | event :: events =>
    (∀ request, event.request? = some request → P app.desk request) ∧
      (app.next event).Along P events

theorem Along.mono {P Q : Desk → Request → Prop} (hPQ : ∀ d request, P d request → Q d request)
    {events : List Event} (h : app.Along P events) : app.Along Q events := by
  induction events generalizing app with
  | nil => exact trivial
  | cons event events ih => exact ⟨fun request hr ↦ hPQ _ _ (h.1 request hr), ih h.2⟩

theorem along_of_forall {P : Desk → Request → Prop} (h : ∀ d request, P d request)
    {events : List Event} : app.Along P events := by
  induction events generalizing app with
  | nil => exact trivial
  | cons event events ih => exact ⟨fun request _ ↦ h _ request, ih⟩

/-- What an event leaves behind. -/
theorem names_next (h : app.Names p) (htidy : app.Tidy)
    {event : Event} (hfiles : ∀ request, event.request? = some request →
      request.Files (DayKey.names p) app.desk) :
    (app.next event).Names p := by
  cases event with
  | words editor ws =>
    refine holds_of_bind (names_dispatch h fun request hrequest ↦ hfiles request ?_)
      (preserves_complete_names editor)
    rw [Event.request?, hrequest]
    rfl
  | line editor text =>
    refine holds_of_bind (names_execute h fun request hrequest ↦ hfiles request ?_)
      (preserves_complete_names editor)
    rw [Event.request?, hrequest]
    rfl
  | timer | clock | files => exact h
  | restart =>
    obtain ⟨entries, hdisk, hholding⟩ := htidy.onDisk
    obtain ⟨store, hreopen, hstore⟩ := h.reopen hdisk hholding.hasIndex
    rw [next, restart, hreopen]
    exact hstore

/-- **A run leaves only keys that name what they should**, if all events are filed under such. -/
theorem names_after (h : app.Names p) (htidy : app.Tidy)
    {events : List Event} (hfiles : app.Along (fun d request ↦ request.Files (DayKey.names p) d)
      events) : (app.after events).Names p := by
  induction events generalizing app with
  | nil => exact h
  | cons event events ih =>
    exact ih (names_next h htidy hfiles.1) (tidy_next htidy event) hfiles.2

end

end App

/-! ### The calendar -/

namespace Agenda

variable {p : String → Bool} {d : Desk} {day : String}

/-- What stands in the calendar of a desk: the index can be read, and it lists keys of days that
have the property, and other keys of days do not stand in the store. -/
structure FilesUnder (p : String → Bool) (d : Desk) : Prop where
  index : ∃ days : List String,
    d.store.days = .ok (days.map fun day ↦ .str (dayPrefix ++ day)) ∧ ∀ day ∈ days, p day = true
  keys : ∀ key ∈ d.store.entries.keys, isDayKey key = true →
    ∃ day, key = .text (dayPrefix ++ day) ∧ p day = true

/-- The day is listed in the index, or its key stands in the store. -/
def IsFiled (d : Desk) (day : String) : Prop :=
  (∃ entries, d.store.days = .ok entries ∧ .str (dayPrefix ++ day) ∈ entries) ∨
    .text (dayPrefix ++ day) ∈ d.store.entries.keys

theorem FilesUnder.of_isFiled (h : FilesUnder p d) (hfiled : IsFiled d day) : p day = true := by
  rcases hfiled with ⟨entries, hdays, hmem⟩ | hmem
  · obtain ⟨days, hlisted, hall⟩ := h.index
    obtain rfl := Except.ok.inj (hdays.symm.trans hlisted)
    obtain ⟨day', hday', heq⟩ := List.mem_map.1 hmem
    obtain rfl : day' = day := by simpa using heq
    exact hall day' hday'
  · obtain ⟨day', heq, hday'⟩ := h.keys _ hmem (DayKey.isDayKey_append day)
    obtain rfl : day = day' := by simpa using heq
    exact hday'

theorem filesUnder_of_holdsOnly (htidy : d.Tidy) (h : HoldsOnly (DayKey.names p) d.store) :
    FilesUnder p d where
  index := by
    obtain ⟨days, hdays⟩ := exists_days htidy
    refine ⟨days, hdays, fun day hday ↦ ?_⟩
    have hlisting := listing_days (App.confined_names p)
      (DayKey.names_of_not_day isDayKey_indexKey) ⟨⟨rfl, h⟩, rfl, rfl, rfl⟩ hdays
    exact (DayKey.names_append day).symm.trans (hlisting _ (List.mem_map_of_mem hday))
  keys key hkey hday := DayKey.exists_day_of_names (h.only.keys key hkey) hday

/-- The answer to who asks for the events of a day. -/
def dayListing (day : String) (events : List Json) : List Response :=
  if events.isEmpty then Response.reply ("No events for " ++ DayKey.pretty day ++ ".")
  else
    Response.reply
      (Collection.joinLines (Collection.numberedTexts 1 (events.map Json.display))) .calendar
      (events.any Json.isTorn)

/-- **The events of a day that exists are listed.** -/
theorem view_eq_ok (htidy : d.Tidy) (hday : DayKey.isRealDay day = true) :
    ∃ events, d.store.list (dayPrefix ++ day : String) = .ok events ∧
      (∀ event ∈ events, event.isText = true) ∧
      view (some day) d = .ok (dayListing day events) := by
  obtain ⟨date, hshown, hreal⟩ := DayKey.isRealDay_eq_true_iff.1 hday
  have hkey : DayKey.ofText day = .ok (dayPrefix ++ day) := by
    rw [DayKey.ofText_of_shownDay? hshown, if_pos hreal]
  obtain ⟨events, hlist, hfits⟩ := htidy.holding.exists_list (dayPrefix ++ day : String)
  have htexts : ∀ event ∈ events, event.isText = true := fun event hevent ↦
    ((hfits event hevent).event (DayKey.isDayKey_append day)).1
  refine ⟨events, hlist, htexts, ?_⟩
  -- to ask for no day, or for all of them, is to ask for no day that exists
  have hempty : DayKey.isRealDay "" = false := by decide +kernel
  have hall : DayKey.isRealDay "all" = false := by decide +kernel
  have hview : view (some day) d = viewDay day d := by
    unfold view
    split
    · cases ‹some day = none›
    · cases ‹some day = some ""›
      exact absurd (hempty.symm.trans hday) (by simp)
    · cases ‹some day = some "all"›
      exact absurd (hall.symm.trans hday) (by simp)
    · cases ‹some day = some _›
      rfl
  rw [hview, viewDay, hkey, ok_bind, hlist, ok_bind]
  cases events with
  | nil => rfl
  | cons event events =>
    have hlines : Collection.numbered Collection.shown 1 (event :: events) =
        .ok (Collection.numberedTexts 1 ((event :: events).map Json.display)) :=
      Collection.numbered_eq_ok
        (fun e he ↦ Collection.shown_eq_ok (Json.isShowable_of_isText (htexts e he))) 1
    show (Collection.numbered _ 1 (event :: events) >>= fun ls ↦ _) = _
    rw [hlines]
    rfl

end Agenda

open Agenda

/-- **Events are filed under days that exist**, each day under one key only, if all days are typed
in ASCII and no file is loaded that has other days. Whatever is done, starting from an empty store:
the index and the keys are those of days of six digits and perhaps a line break, and the events of
every day that exists are listed for its six ASCII digits without an error. If in the run events
were entered and loaded only so, then the index and the keys are those of days that exist, and a day
that is filed twice is filed under the same key. -/
theorem filed_under_real_days (app : App) (run : List App.Event)
    (hopen : Opens [] app.desk.store) :
    let d := (app.after run).desk
    FilesUnder (fun day ↦ DayKey.isDigits 6 day.toList) d ∧
    (∀ day, DayKey.isRealDay day = true →
      ∃ events, d.store.list (dayPrefix ++ day : String) = .ok events ∧
        (∀ event ∈ events, event.isText = true) ∧
        view (some day) d = .ok (dayListing day events)) ∧
    (app.Along (fun d request ↦ request.KeepsToDates d) run →
      FilesUnder DayKey.isRealDay d ∧
      ∀ day day', IsFiled d day → IsFiled d day' →
        DayKey.shownDay? day = DayKey.shownDay? day' → day = day') := by
  intro d
  have htidy := App.tidy_of_opens hopen run
  have hfiles (p : String → Bool)
      (h : app.Along (fun d request ↦ request.Files (DayKey.names p) d) run) :
      FilesUnder p d :=
    filesUnder_of_holdsOnly htidy (App.names_after
      (hopen.holdsOnly (DayKey.names_of_not_day isDayKey_indexKey)) (Opens.tidy hopen) h)
  refine ⟨hfiles _ (App.along_of_forall fun d request ↦ request.files_digits d),
    fun day hday ↦ view_eq_ok htidy hday, fun hrun ↦ ?_⟩
  have hreal := hfiles DayKey.isRealDay (hrun.mono fun _ _ ↦ Request.KeepsToDates.files)
  refine ⟨hreal, fun day day' hday hday' heq ↦ ?_⟩
  obtain ⟨date, hshown, -⟩ := DayKey.isRealDay_eq_true_iff.1 (hreal.of_isFiled hday)
  exact DayKey.shownDay?_injective hshown (heq ▸ hshown)

/-- An organizer that has just been set up, with a file of an agenda. -/
def App.withAgenda (text : String) : App where
  desk := {
    store := ⟨[(indexKey, .arr [])], .memory⟩
    files := ⟨[(["home"], .directory), (["home", "saved"], .directory),
      (["home", "saved", "calendar.txt"], .file text.toUTF8)]⟩
    home := ⟨.slash, ["home"]⟩
    savedFiles := ⟨.slash, ["home", "saved"]⟩ }
  scheduler := { defaults := ⟨25, 5⟩ }
  now := { date := ⟨2024, 2, 29⟩ }

/-- Words without an editor. -/
def App.asked (words : List (List String)) : List App.Event :=
  words.map fun ws ↦ .words (fun _ _ ↦ none) ws

/-- An agenda with a leap day is loaded, and another event is entered on that day. -/
theorem filed_under_real_days_leap :
    let app := App.withAgenda "\x7b\"cal-240229\": [\"leap\"]\x7d"
    let run := App.asked [["cal", "open"], ["cal", "add", "240229", "tea"]]
    FilesUnder DayKey.isRealDay (app.after run).desk ∧
      view (some "240229") (app.after run).desk =
        .ok (Response.reply "1. leap\n2. tea" .calendar) := by
  intro app run
  have hopen : Opens [] app.desk.store := .memory (by decide +kernel)
  obtain ⟨-, hviews, hreal⟩ := filed_under_real_days app run hopen
  have hloads : (Request.loadAgenda none).KeepsToDates app.desk := by
    intro path v days hpath hread hdays
    have hpath' : app.desk.resolve none fileName =
        .ok ⟨.slash, ["home", "saved", "calendar.txt"]⟩ := by decide +kernel
    obtain rfl := Except.ok.inj (hpath'.symm.trans hpath)
    have hread' : app.desk.read ⟨.slash, ["home", "saved", "calendar.txt"]⟩ =
        .ok (.obj [("cal-240229", .arr [.str "leap"])]) := by decide +kernel
    obtain rfl := Except.ok.inj (hread'.symm.trans hread)
    have hdays' : daysOf? (.obj [("cal-240229", .arr [.str "leap"])]) =
        some [("cal-240229", [.str "leap"])] := by decide +kernel
    obtain rfl := Option.some.inj (hdays'.symm.trans hdays)
    exact fun day hday ↦ List.mem_singleton.1 hday ▸ by decide +kernel
  have hrun : app.Along (fun d request ↦ request.KeepsToDates d) run := by
    refine ⟨fun request hrequest ↦ ?_, fun request hrequest ↦ ?_, trivial⟩
    · obtain rfl : Request.loadAgenda none = request := Option.some.inj hrequest
      exact hloads
    · obtain rfl : Request.addEvent (some "240229") "tea" = request := Option.some.inj hrequest
      have hascii : "240229".toList.all (fun c ↦ decide (c.toNat < 128)) = true := by
        decide +kernel
      intro key _ c hc
      exact of_decide_eq_true (List.all_eq_true.1 hascii c hc)
  refine ⟨(hreal hrun).1, ?_⟩
  obtain ⟨events, hlist, -, hview⟩ := hviews "240229" (by decide +kernel)
  have hevents : (app.after run).desk.store.list (dayPrefix ++ "240229" : String) =
      .ok [.str "leap", .str "tea"] := by decide +kernel
  obtain rfl := Except.ok.inj (hevents.symm.trans hlist)
  exact hview.trans (by decide +kernel)

/-- **Days need not exist, and need not be typed in ASCII.** A file has the 99th day of the 99th
month; and a day is typed in two scripts, so that it has another key. -/
theorem not_always_real :
    (¬ ∀ (app : App) (run : List App.Event), Opens [] app.desk.store →
      ∀ day, IsFiled (app.after run).desk day → DayKey.isRealDay day = true) ∧
    (¬ ∀ (app : App) (day text : String), Opens [] app.desk.store →
      ∀ filed, IsFiled (app.after (App.asked [["cal", "add", day, text]])).desk filed →
        DayKey.isRealDay filed = true) ∧
    ¬ ∀ day day' key key', DayKey.ofText day = .ok key → DayKey.ofText day' = .ok key' →
      DayKey.readDay? day.toList = DayKey.readDay? day'.toList → key = key' := by
  refine ⟨fun h ↦ ?_, fun h ↦ ?_, fun h ↦ ?_⟩
  · have hopen : Opens [] (App.withAgenda "\x7b\"cal-259999\": [\"x\"]\x7d").desk.store :=
      .memory (by decide +kernel)
    exact absurd (h _ (App.asked [["cal", "open"]]) hopen "259999"
      (.inr (by decide +kernel))) (by decide +kernel)
  · have hopen : Opens [] (App.withAgenda "").desk.store := .memory (by decide +kernel)
    exact absurd (h _ "\u0662\u06650101" "x" hopen "\u0662\u06650101" (.inr (by decide +kernel)))
      (by decide +kernel)
  · exact absurd (h "\u0662\u06650101" "250101" "cal-\u0662\u06650101" "cal-250101"
      (by decide +kernel) (by decide +kernel) (by decide +kernel)) (by decide +kernel)

end Organizer
