import Organizer.Proofs.App.ErrorAnswers
import Organizer.Proofs.Collection.Fitting

/-!
# Runs of the organizer

A run is a list of events: requests in words or lines, with a person who edits notes, timers that
fire, restarts, and what happens outside, where the time passes and files come, change and go. A
request that fails is an event like any other, and so is one that loads a file of whatever content.

Requests keep the desk tidy, one by one (`preserves_answer`), and so a desk that was tidy at the
start of a run is tidy at its end (`tidy_after`). At the start it is if the store was opened on the
empty mapping.
-/

namespace Organizer.App

open Organizer.Action

/-! ### Events -/

/-- What can happen to the organizer. -/
inductive Event
  | words (editor : Editor) (ws : List String)
  | line (editor : Editor) (text : String)
  | timer (number : Nat)
  | clock (now : Moment)
  | files (files : FileTree)
  | restart

/-- The organizer after an event. One that cannot start over is left as it is. -/
def next (app : App) : Event → App
  | .words editor ws => ((dispatchWith editor ws).perform app).2
  | .line editor text => ((executeWith editor text).perform app).2
  | .timer number => { app with scheduler := app.scheduler.fire number }
  | .clock now => { app with now }
  | .files files => { app with desk := { app.desk with files } }
  | .restart =>
    match app.restart with
    | .ok app => app
    | .error _ => app

/-- The organizer after a run. -/
def after (app : App) (events : List Event) : App := events.foldl next app

theorem after_cons (app : App) (event : Event) (events : List Event) :
    app.after (event :: events) = (app.next event).after events := rfl

/-! ### Requests on a tidy desk -/

/-- The desk of the organizer is tidy. -/
def Tidy (app : App) : Prop := app.desk.Tidy

variable {α : Type} {p : α → Prop}

theorem ensures_onDesk {a : Action Desk α} (h : Ensures Desk.Tidy p a) :
    Ensures Tidy p (onDesk a) :=
  .within (fun _ h ↦ h) (fun _ _ hd _ ↦ hd) h

theorem preserves_onScheduler (a : Action Scheduler α) : Preserves Tidy (onScheduler a) :=
  .within (I := fun _ ↦ True) (fun _ _ ↦ trivial) (fun _ _ _ h ↦ h)
    fun _ _ ↦ ⟨trivial, .anything _⟩

theorem preserves_view (f : Desk → Except Failure α) : Preserves Tidy (view f) :=
  .of_readOnly (readOnly_view f) fun _ _ ↦ .anything _

/-- **Every request keeps the desk tidy.** -/
theorem preserves_answer (request : Request) : Preserves Tidy (answer request) := by
  cases request with
  | nothing | editNote term | help | clear => exact .pure trivial
  | openAddress address =>
    exact .bind (ensures_onDesk (.modify fun _ hd ↦ hd)) fun _ _ ↦ .pure trivial
  | helpOn topic =>
    rw [answer]
    split
    · exact .pure trivial
    · exact .refuse _
  | list kind => exact preserves_view _
  | save kind path => exact ensures_onDesk (Collection.preserves_save _ path)
  | load kind path => exact ensures_onDesk (Collection.preserves_load kind path)
  | addNote text => exact ensures_onDesk (Notes.preserves_add text)
  | deleteNote term => exact ensures_onDesk (Notes.preserves_delete term)
  | addTodo text => exact ensures_onDesk (Todos.preserves_add text)
  | markDone word => exact ensures_onDesk (Todos.preserves_markDone word)
  | addLink address name => exact ensures_onDesk (Links.preserves_add address name)
  | goLink term => exact ensures_onDesk (Links.preserves_go term)
  | renameLink term newName => exact ensures_onDesk (Links.preserves_rename term newName)
  | deleteLink term => exact ensures_onDesk (Links.preserves_delete term)
  | addContact name info => exact ensures_onDesk (Contacts.preserves_add name info)
  | findContacts term => exact preserves_view _
  | deleteContacts name => exact ensures_onDesk (Contacts.preserves_delete name)
  | month typed => exact .bind .get fun _ _ ↦ .ofExcept (.anything _)
  | addEvent day text => exact ensures_onDesk (Agenda.preserves_add day text)
  | viewEvents day => exact preserves_view _
  | saveAgenda path => exact ensures_onDesk (Agenda.preserves_save path)
  | loadAgenda path => exact ensures_onDesk (Agenda.preserves_load path)
  | startPomodoro work rest =>
    exact .bind (preserves_onScheduler _) fun _ _ ↦ .pure trivial
  | stopPomodoro => exact .bind (preserves_onScheduler _) fun _ _ ↦ .pure trivial
  | startCountdown minutes message =>
    exact .bind (preserves_onScheduler _) fun _ _ ↦ .pure trivial
  | stopCountdown => exact .bind (preserves_onScheduler _) fun _ _ ↦ .pure trivial
  | remind time message =>
    exact .bind .get fun _ _ ↦ .bind (preserves_onScheduler _) fun _ _ ↦ .pure trivial
  | time => exact .bind .get fun _ _ ↦ .pure trivial
  | calculate expression => exact .ofExcept (.anything _)

theorem preserves_carryOut (request : Request) : Preserves Tidy (carryOut request) := by
  unfold carryOut
  split
  · exact .bind (preserves_view _) fun _ _ ↦ .pure trivial
  · exact .bind (preserves_answer _) fun _ _ ↦ .pure trivial

/-! ### Words and lines on a tidy desk -/

theorem preserves_reporting {I : App → Prop} {a : Action App α} (report : Response → α)
    (h : Preserves I a) : Preserves I (reporting report a) := by
  intro app happ
  rw [snd_perform_reporting]
  exact ⟨(h app happ).1, .anything _⟩

theorem preserves_dispatch (words : List String) : Preserves Tidy (dispatch words) := by
  unfold dispatch
  refine preserves_reporting _ ?_
  cases Request.ofWords words with
  | ok request => exact preserves_carryOut request
  | error reason => exact .refuse reason

theorem preserves_complete (editor : Editor) (progress : Progress) :
    Preserves Tidy (complete editor progress) := by
  cases progress with
  | answered responses => exact .pure trivial
  | editing place text =>
    exact preserves_reporting _ (ensures_onDesk (Notes.preserves_finishEdit place _))

theorem preserves_dispatchWith (editor : Editor) (words : List String) :
    Preserves Tidy (dispatchWith editor words) :=
  .bind (preserves_dispatch words) fun _ _ ↦ preserves_complete editor _

theorem preserves_executeWith (editor : Editor) (line : String) :
    Preserves Tidy (executeWith editor line) := by
  have hexecute : Preserves Tidy (execute line) := by
    unfold execute
    generalize Text.strip line = stripped
    exact .ite (fun _ ↦ .pure trivial) fun _ ↦
      .bind (.modify fun _ h ↦ h) fun _ _ ↦ preserves_dispatch _
  exact hexecute.bind fun _ _ ↦ preserves_complete editor _

/-! ### Lines -/

/-- A line goes into the history and is dispatched, unless it is blank. -/
theorem perform_execute (app : App) (line : String) :
    (execute line).perform app =
      if (Text.strip line).isEmpty then (.ok (.answered []), app)
      else (dispatch (CommandLine.words (Text.strip line))).perform
        { app with history := app.history.record (Text.strip line) } := by
  unfold execute
  dsimp only
  split
  · rfl
  · rw [perform_bind_of_ok (perform_modify _ app)]

/-! ### Runs on a tidy desk -/

theorem tidy_next {app : App} (h : app.Tidy) (event : Event) : (app.next event).Tidy := by
  cases event with
  | words editor ws => exact (preserves_dispatchWith editor ws app h).1
  | line editor text => exact (preserves_executeWith editor text app h).1
  | timer | clock | files => exact h
  | restart =>
    obtain ⟨store, hreopen, hstore⟩ := Store.Tidy.reopen h
    rw [next, restart, hreopen]
    exact hstore

/-- **A tidy desk stays tidy**, whatever happens. -/
theorem tidy_after {app : App} (h : app.Tidy) (events : List Event) : (app.after events).Tidy := by
  induction events generalizing app with
  | nil => exact h
  | cons event events ih => exact ih (tidy_next h event)

/-- The desk is tidy in every state that is reached from an empty store. -/
theorem tidy_of_opens {app : App} (hopen : Store.Opens [] app.desk.store) (events : List Event) :
    (app.after events).Tidy :=
  tidy_after (Store.Opens.tidy hopen) events

end Organizer.App
