import Organizer.Proofs.App.CleanRefusal

/-!
# Error answers leave no trace

An answer of the category `error` reports a refusal, and nothing else does: no command that is
carried out answers with a block of that category (`answers_answer`). Since a refused command leaves
the state as it was, whoever sees such an answer knows that nothing was changed. This holds of words
that were carried out to the end, with an editor of notes in between (`dispatchWith_eq_of_error`).
-/

namespace Organizer

open Organizer.Action

namespace App

/-! ### The categories of answers -/

/-- No block of the answer has the category `error`. -/
def NoError (responses : List Response) : Prop := ∀ r ∈ responses, r.category ≠ .error

theorem noError_singleton {r : Response} (h : r.category ≠ .error) : NoError [r] :=
  fun _ hr ↦ List.mem_singleton.1 hr ▸ h

theorem answers_reply {σ : Type} (text : String) {category : Category} {torn : Bool}
    (h : category ≠ .error) :
    Answers NoError (pure (Response.reply text category torn) : Action σ _) :=
  .pure (noError_singleton h)

theorem yields_reply (text : String) {category : Category} {torn : Bool} (h : category ≠ .error) :
    Yields NoError (.ok (Response.reply text category torn)) :=
  .ok (noError_singleton h)

theorem yields_replyMarkup (text : String) {category : Category} {torn : Bool}
    (h : category ≠ .error) : Yields NoError (.ok (Response.replyMarkup text category torn)) :=
  .ok (noError_singleton h)

theorem yields_list (c : Collection) (h : c.category ≠ .error) (d : Desk) :
    Yields NoError (c.list d) := by
  refine .bind fun rs ↦ ?_
  split
  · exact yields_reply _ (by decide)
  · exact .bind fun ls ↦ .ok (noError_singleton h)

theorem answers_save (c : Collection) (h : c.category ≠ .error) (typed : Option String) :
    Answers NoError (c.save typed) :=
  .bind fun _ ↦ .ite _ (answers_reply _ (by decide))
    (.bind fun _ ↦ .bind fun _ ↦ .bind fun _ ↦ answers_reply _ h)

theorem answers_load (c : Collection) (h : c.category ≠ .error) (typed : Option String) :
    Answers NoError (c.load typed) := by
  refine .bind fun _ ↦ .bind fun _ ↦ .bind fun _ ↦ ?_
  split
  · exact .refuse _
  · exact .bind fun _ ↦ answers_reply _ h

theorem category_ne_error (kind : RecordKind) : kind.collection.category ≠ .error := by
  cases kind <;> decide

theorem answers_finishEdit (place : Nat) (text : Option String) :
    Answers NoError (Notes.finishEdit place text) := by
  cases text with
  | none => exact answers_reply _ (by decide)
  | some text => exact .bind fun _ ↦ answers_reply _ (by decide)

theorem answers_markDone (word : Option String) : Answers NoError (Todos.markDone word) := by
  refine .bind fun _ ↦ .bind fun _ ↦ .ite _ (.refuse _) (.bind fun _ ↦ .bind fun _ ↦ ?_)
  -- What comes last is an answer of its own together with the listing of all items.
  intro d _ answer h
  obtain ⟨d', _, -, h⟩ := perform_bind_eq_ok.1 h
  obtain ⟨listing, _, hlisting, h⟩ := perform_bind_eq_ok.1 h
  rw [perform_ofExcept] at hlisting
  have hno : NoError listing :=
    yields_list Todos.collection (by decide) d' listing (congrArg Prod.fst hlisting)
  obtain rfl := Except.ok.inj (congrArg Prod.fst h)
  intro r hr
  rcases List.mem_append.1 hr with hr | hr
  · rw [List.mem_singleton.1 hr]
    exact nofun
  · exact hno r hr

theorem yields_view (day : Option String) (d : Desk) : Yields NoError (Agenda.view day d) := by
  have hall : Yields NoError (Agenda.viewAll d) := by
    refine .bind fun days ↦ ?_
    split
    · exact yields_reply _ (by decide)
    · exact .bind fun _ ↦ .ok (noError_singleton (by simp))
  unfold Agenda.view
  split
  · exact hall
  · exact hall
  · exact hall
  · refine .bind fun key ↦ .bind fun events ↦ ?_
    split
    · exact yields_reply _ (by decide)
    · exact .bind fun _ ↦ yields_reply _ (by decide)

theorem yields_find (term : String) (d : Desk) : Yields NoError (Contacts.find term d) := by
  refine .bind fun hits ↦ ?_
  split
  · exact yields_reply _ (by decide)
  · exact .bind fun _ ↦ yields_reply _ (by decide)

theorem yields_month (today : Date) (typed : Option String) :
    Yields NoError (Agenda.month today typed) := by
  unfold Agenda.month
  split
  · exact yields_replyMarkup _ (by decide)
  · exact yields_replyMarkup _ (by decide)
  · refine .bind ?_
    rintro ⟨year, month⟩
    exact yields_replyMarkup _ (by decide)

theorem answers_view {f : Desk → Except Failure (List Response)} (h : ∀ d, Yields NoError (f d)) :
    Answers NoError (view f) :=
  .bind fun _ ↦ .ofExcept (h _)

theorem answers_onDesk {a : Action Desk (List Response)} (h : Answers NoError a) :
    Answers NoError (onDesk a) :=
  .within h

theorem answers_deleteNote (term : String) : Answers NoError (Notes.delete term) :=
  .bind fun _ ↦ .bind fun _ ↦ .bind fun _ ↦ answers_reply _ (by decide)

theorem answers_goLink (term : String) : Answers NoError (Links.go term) :=
  .bind fun _ ↦ .bind fun _ ↦ .bind fun _ ↦ .bind fun _ ↦ .bind fun _ ↦ .bind fun _ ↦
    answers_reply _ (by decide)

theorem answers_renameLink (term name : String) : Answers NoError (Links.rename term name) :=
  .ite _ (.refuse _) (.bind fun _ ↦ .bind fun _ ↦ .bind fun _ ↦ .bind fun _ ↦
    answers_reply _ (by decide))

theorem answers_deleteLink (term : String) : Answers NoError (Links.delete term) :=
  .bind fun _ ↦ .bind fun _ ↦ .bind fun _ ↦ answers_reply _ (by decide)

theorem answers_deleteContacts (name : String) : Answers NoError (Contacts.delete name) :=
  .bind fun _ ↦ .bind fun _ ↦ .ite _ (.refuse _) (answers_reply _ (by decide))

theorem answers_addEvent (day : Option String) (text : String) :
    Answers NoError (Agenda.add day text) :=
  .bind fun _ ↦ .ite _ (.refuse _) (.bind fun _ ↦ answers_reply _ (by decide))

theorem answers_saveAgenda (typed : Option String) : Answers NoError (Agenda.save typed) :=
  .bind fun _ ↦ .bind fun _ ↦ .ite _ (answers_reply _ (by decide))
    (.bind fun _ ↦ .bind fun _ ↦ answers_reply _ (by decide))

theorem answers_loadAgenda (typed : Option String) : Answers NoError (Agenda.load typed) := by
  refine .bind fun _ ↦ .bind fun _ ↦ .bind fun _ ↦ ?_
  split
  · exact .refuse _
  · exact .bind fun _ ↦ answers_reply _ (by decide)

/-- **No request that is carried out is answered with an error.** -/
theorem answers_answer (request : Request) : Answers NoError (answer request) := by
  cases request with
  | nothing => exact .pure fun _ h ↦ absurd h List.not_mem_nil
  | editNote term => exact .pure fun _ h ↦ absurd h List.not_mem_nil
  | openAddress address => exact .bind fun _ ↦ answers_reply _ (by decide)
  | help => exact .pure (by simp [NoError, catalogue])
  | helpOn topic =>
    rw [answer]
    split
    · exact answers_reply _ (by decide)
    · exact .refuse _
  | clear => exact .pure (noError_singleton (by simp))
  | list kind => exact answers_view (yields_list _ (category_ne_error kind))
  | save kind path => exact answers_onDesk (answers_save _ (category_ne_error kind) path)
  | load kind path => exact answers_onDesk (answers_load _ (category_ne_error kind) path)
  | addNote text => exact answers_onDesk (.bind fun _ ↦ answers_reply _ (by decide))
  | deleteNote term => exact answers_onDesk (answers_deleteNote term)
  | addTodo text =>
    exact answers_onDesk (.ite _ (.refuse _) (.bind fun _ ↦ answers_reply _ (by decide)))
  | markDone word => exact answers_onDesk (answers_markDone word)
  | addLink address name =>
    exact answers_onDesk (.ite _ (.refuse _) (.bind fun _ ↦ answers_reply _ (by decide)))
  | goLink term => exact answers_onDesk (answers_goLink term)
  | renameLink term name => exact answers_onDesk (answers_renameLink term name)
  | deleteLink term => exact answers_onDesk (answers_deleteLink term)
  | addContact name info =>
    exact answers_onDesk (.ite _ (.refuse _) (.bind fun _ ↦ answers_reply _ (by decide)))
  | findContacts term => exact answers_view (yields_find term)
  | deleteContacts name => exact answers_onDesk (answers_deleteContacts name)
  | month typed =>
    exact .bind fun _ ↦ .ofExcept (yields_month _ typed)
  | addEvent day text => exact answers_onDesk (answers_addEvent day text)
  | viewEvents day => exact answers_view (yields_view day)
  | saveAgenda path => exact answers_onDesk (answers_saveAgenda path)
  | loadAgenda path => exact answers_onDesk (answers_loadAgenda path)
  | startPomodoro work rest => exact .bind fun _ ↦ answers_reply _ (by decide)
  | stopPomodoro => exact .bind fun _ ↦ answers_reply _ (by decide)
  | startCountdown minutes message => exact .bind fun _ ↦ answers_reply _ (by decide)
  | stopCountdown => exact .bind fun _ ↦ answers_reply _ (by decide)
  | remind time message => exact .bind fun _ ↦ .bind fun _ ↦ answers_reply _ (by decide)
  | time => exact .bind fun _ ↦ answers_reply _ (by decide)
  | calculate expression =>
    refine .ofExcept ?_
    unfold calculate
    split
    · exact yields_reply _ (by decide)
    · exact .error _
    · exact .error _

/-! ### Reported refusals -/

section Reporting

variable {α : Type} {report : Response → α} {a : Action App α} {app app' : App}

theorem perform_reporting :
    (reporting report a).perform app =
      match a.perform app with
      | (.error (.refused reason), t) => (.ok (report (.ofRefusal reason)), t)
      | outcome => outcome := by
  simp only [reporting, perform, ExceptT.run, ExceptT.mk, StateT.run, bind, StateT.bind]
  rcases a app with ⟨(_ | _) | _, _⟩ <;> rfl

/-- To report a refusal changes nothing. -/
theorem snd_perform_reporting : ((reporting report a).perform app).2 = (a.perform app).2 := by
  rw [perform_reporting]
  rcases a.perform app with ⟨(_ | _) | _, _⟩ <;> rfl

/-- What is answered is the answer of the action or the report of its refusal. -/
theorem reporting_eq_ok {x : α} (h : (reporting report a).perform app = (.ok x, app')) :
    a.perform app = (.ok x, app') ∨
      ∃ reason, a.perform app = (.error (.refused reason), app') ∧
        x = report (.ofRefusal reason) := by
  rw [perform_reporting] at h
  rcases ha : a.perform app with ⟨(reason | -) | y, t⟩ <;> rw [ha] at h
  · obtain ⟨rfl, rfl⟩ : report (.ofRefusal reason) = x ∧ t = app' := by simpa using h
    exact .inr ⟨reason, rfl, rfl⟩
  · exact absurd (congrArg Prod.fst h) (by simp)
  · exact .inl h

end Reporting

/-- The words make a request that is carried out, or are refused. -/
theorem dispatch_eq_ok {words : List String} {app app' : App} {progress : Progress}
    (h : (dispatch words).perform app = (.ok progress, app')) :
    (∃ request, Request.ofWords words = .ok request ∧
        (carryOut request).perform app = (.ok progress, app')) ∨
      ∃ reason, app' = app ∧ progress = .answered [.ofRefusal reason] := by
  unfold dispatch at h
  -- a refusal comes from the words or from the request, and neither changes anything
  rcases reporting_eq_ok h with hdone | ⟨reason, hrefused, rfl⟩
  · cases hwords : Request.ofWords words with
    | ok request => exact .inl ⟨request, rfl, by simpa only [hwords] using hdone⟩
    | error reason => simp [hwords] at hdone
  · refine .inr ⟨reason, ?_, rfl⟩
    cases hwords : Request.ofWords words with
    | ok request =>
      rw [hwords] at hrefused
      exact refusesCleanly_carryOut request _ _ _ hrefused
    | error reason =>
      rw [hwords, perform_refuse] at hrefused
      exact (congrArg Prod.snd hrefused).symm

/-- Words that make a request do what it does. -/
theorem perform_dispatch_of_ofWords {words : List String} {request : Request} {app app' : App}
    {progress : Progress} (hwords : Request.ofWords words = .ok request)
    (h : (carryOut request).perform app = (.ok progress, app')) :
    (dispatch words).perform app = (.ok progress, app') := by
  rw [dispatch, perform_reporting, hwords]
  dsimp only
  rw [h]

/-- A request that is carried out is answered without an error, unless it waits for a text. -/
theorem noError_of_carryOut {request : Request} {app app' : App} {responses : List Response}
    (h : (carryOut request).perform app = (.ok (.answered responses), app')) :
    NoError responses := by
  unfold carryOut at h
  split at h
  · obtain ⟨x, u, -, h⟩ := perform_bind_eq_ok.1 h
    exact absurd (congrArg Prod.fst h) (by simp)
  · obtain ⟨rs, u, hrs, h⟩ := perform_bind_eq_ok.1 h
    obtain rfl : rs = responses := by simpa using congrArg Prod.fst h
    exact answers_answer _ _ _ _ hrs

/-- **An error that is answered changed nothing.** Whatever the state, the words and the texts that
the editor gives: if the answer has a block of the category `error`, then it is the report of one
refusal, and the store, its file, all other files, the timers, the alerts, the addresses that were
opened and the history are as before. -/
theorem dispatchWith_eq_of_error (editor : Editor) (words : List String) (app app' : App)
    (responses : List Response)
    (h : (dispatchWith editor words).perform app = (.ok responses, app'))
    (herror : ∃ r ∈ responses, r.category = .error) :
    app' = app ∧ ∃ reason, responses = [.ofRefusal reason] := by
  obtain ⟨r, hr, hcategory⟩ := herror
  obtain ⟨progress, u, hdispatch, hcomplete⟩ := perform_bind_eq_ok.1 h
  -- an editor comes in between if a note is edited; until then it was only looked up
  cases progress with
  | answered answers =>
    obtain ⟨rfl, rfl⟩ : answers = responses ∧ u = app' := by simpa [complete] using hcomplete
    rcases dispatch_eq_ok hdispatch with ⟨request, -, hrequest⟩ | ⟨reason, rfl, hanswers⟩
    · exact absurd hcategory (noError_of_carryOut hrequest r hr)
    · exact ⟨rfl, reason, Progress.answered.inj hanswers⟩
  | editing place text =>
    have hu : u = app := by
      rcases dispatch_eq_ok hdispatch with ⟨request, -, hrequest⟩ | ⟨reason, -, hanswers⟩
      · exact eq_of_carryOut_editing hrequest
      · exact absurd hanswers (by simp)
    subst hu
    rw [complete, finish] at hcomplete
    rcases reporting_eq_ok hcomplete with hresume | ⟨reason, hresume, rfl⟩
    · exact absurd hcategory (answers_onDesk (answers_finishEdit _ _) _ _ _ hresume r hr)
    · exact ⟨refusesCleanly_resume _ _ _ _ _ hresume, reason, rfl⟩

/-- An organizer that knows one person. -/
def oneContact : App where
  desk := {
    store := {
      entries := [("contacts", .arr [.obj [("name", .str "Ada"), ("info", .str "ada@example")]]),
        ("_calendar_index", .arr [])]
      backing := .memory }
    home := ⟨.slash, ["home"]⟩
    savedFiles := ⟨.slash, ["home", "saved"]⟩ }
  scheduler := { defaults := ⟨25, 5⟩ }
  now := { date := ⟨2024, 2, 29⟩ }

/-- Whoever is not known cannot be deleted, and the one who is known stays. -/
theorem dispatchWith_delete_unknown :
    ∃ app' responses,
      (dispatchWith (fun _ _ ↦ none) ["contact", "del", "Bob"]).perform oneContact =
        (.ok responses, app') ∧
      (∃ r ∈ responses, r.category = .error) ∧
      app' = oneContact ∧ ∃ reason, responses = [.ofRefusal reason] := by
  have hrun : (dispatchWith (fun _ _ ↦ none) ["contact", "del", "Bob"]).perform oneContact =
      (.ok [.ofRefusal (.notFound .contact "Bob")], oneContact) := rfl
  have herror : ∃ r ∈ [Response.ofRefusal (.notFound .contact "Bob")], r.category = .error :=
    ⟨_, List.mem_singleton_self _, rfl⟩
  exact ⟨_, _, hrun, herror, dispatchWith_eq_of_error _ _ _ _ _ hrun herror⟩

end App

end Organizer
