import Mathlib.Data.List.Destutter
import Organizer.Proofs.App.Running
import Organizer.Proofs.Collection.Restoring

/-!
# Lines are kept and recalled

A history is a list of lines and a place in it. What has been recorded alone decides the lines: the
empty ones are left out, and of a run of equal lines there is one (`kept`, `entries_after`). Going
back and forward moves the place and nothing else. The place never leaves the list
(`cursor_le_after`), except that it can stand behind the last line, and from this all that is said
of single steps follows (`Recalls`).

The organizer records a line before it does anything with it, and nothing that it does then touches
the history (`App.HasHistory`). So the lines are kept whatever has come of them (`lines_kept`).
-/

namespace Organizer

namespace History

/-! ### Steps -/

/-- What can be done with a history. -/
inductive Step
  | record (line : String)
  | back
  | forward
  deriving DecidableEq, Repr

/-- The history after a step. -/
def next (h : History) : Step → History
  | .record line => h.record line
  | .back => h.back.2
  | .forward => h.forward.2

/-- The history after some steps. -/
def after (h : History) (steps : List Step) : History := steps.foldl next h

/-- The lines that are recorded, oldest first. -/
def recorded (steps : List Step) : List String :=
  steps.filterMap fun
    | .record line => some line
    | .back | .forward => none

/-- The lines that are kept of those that are recorded: no empty one, and one for each run of equal
ones. -/
def kept (lines : List String) : List String := (lines.filter (· ≠ "")).destutter (· ≠ ·)

variable {h : History} {line : String}

theorem after_cons (h : History) (step : Step) (steps : List Step) :
    h.after (step :: steps) = (h.next step).after steps := rfl

theorem after_append_singleton (h : History) (steps : List Step) (step : Step) :
    h.after (steps ++ [step]) = (h.after steps).next step := by
  rw [after, List.foldl_append]
  rfl

theorem recorded_append (steps steps' : List Step) :
    recorded (steps ++ steps') = recorded steps ++ recorded steps' :=
  List.filterMap_append

theorem recorded_map_record (lines : List String) : recorded (lines.map .record) = lines := by
  rw [recorded, List.filterMap_map]
  exact List.filterMap_some

/-! ### Runs of equal lines -/

theorem destutter'_append_singleton {α : Type} [DecidableEq α] (a x : α) (l : List α) :
    (l ++ [x]).destutter' (· ≠ ·) a =
      if (l.destutter' (· ≠ ·) a).getLast? = some x then l.destutter' (· ≠ ·) a
      else l.destutter' (· ≠ ·) a ++ [x] := by
  induction l generalizing a with
  | nil => by_cases hx : a = x <;> simp [hx]
  | cons b l ih =>
    rw [List.cons_append]
    by_cases hab : a = b
    · rw [List.destutter'_cons_neg _ (not_not.2 hab), List.destutter'_cons_neg _ (not_not.2 hab), ih]
    · obtain ⟨c, m, hm⟩ := List.exists_cons_of_ne_nil (List.destutter'_ne_nil (R := (· ≠ ·)) l (a := b))
      rw [List.destutter'_cons_pos _ hab, List.destutter'_cons_pos _ hab, ih, hm,
        List.getLast?_cons_cons]
      split <;> rfl

/-- The last item of a list is left out if the run before it goes on. -/
theorem destutter_append_singleton {α : Type} [DecidableEq α] (l : List α) (x : α) :
    (l ++ [x]).destutter (· ≠ ·) =
      if (l.destutter (· ≠ ·)).getLast? = some x then l.destutter (· ≠ ·)
      else l.destutter (· ≠ ·) ++ [x] := by
  cases l with
  | nil => rfl
  | cons a l => exact destutter'_append_singleton a x l

theorem kept_filter (lines : List String) : kept (lines.filter (· ≠ "")) = kept lines := by
  simp [kept]

theorem kept_append_singleton (lines : List String) (line : String) :
    kept (lines ++ [line]) =
      if line ≠ "" ∧ (kept lines).getLast? ≠ some line then kept lines ++ [line]
      else kept lines := by
  rw [kept, List.filter_append]
  by_cases hline : line = ""
  · simp [hline, kept]
  · have hfilter : [line].filter (· ≠ "") = [line] := by simp [hline]
    rw [hfilter, destutter_append_singleton, ← kept]
    by_cases hlast : (kept lines).getLast? = some line <;> simp [hline, hlast]

/-! ### Single steps -/

theorem accepts_iff : h.accepts line = true ↔ line ≠ "" ∧ h.entries.getLast? ≠ some line := by
  simp [accepts]

theorem entries_record (h : History) (line : String) :
    (h.record line).entries = if h.accepts line then h.entries ++ [line] else h.entries := rfl

/-- To go back is to move the place, and to look at the line that is there then. -/
theorem back_eq (hcursor : h.cursor ≤ h.entries.length) :
    h.back = (h.entries[h.cursor - 1]?, { h with cursor := h.cursor - 1 }) := by
  rcases h with ⟨entries, cursor⟩
  cases entries with
  | nil =>
    obtain rfl : cursor = 0 := Nat.le_zero.1 hcursor
    rfl
  | cons line lines => rfl

/-- To go forward is to move the place the other way; behind the last line there is none. -/
theorem forward_eq (h : History) :
    h.forward = (h.entries[min h.entries.length (h.cursor + 1)]?.getD "",
      { h with cursor := min h.entries.length (h.cursor + 1) }) := by
  unfold forward
  split
  · have hmin : min h.entries.length (h.cursor + 1) = h.cursor + 1 := by omega
    rw [hmin]
  · have hmin : min h.entries.length (h.cursor + 1) = h.entries.length := by omega
    rw [hmin]
    simp

theorem forward_back (hpos : 1 ≤ h.cursor) (hcursor : h.cursor ≤ h.entries.length) :
    h.back.2.forward.2 = h := by
  have hmin : min h.entries.length (h.cursor - 1 + 1) = h.cursor := by omega
  rw [back_eq hcursor, forward_eq, hmin]

/-! ### Runs -/

/-- The place does not leave the lines in a step. -/
theorem cursor_le_next (hcursor : h.cursor ≤ h.entries.length) (step : Step) :
    (h.next step).cursor ≤ (h.next step).entries.length := by
  cases step with
  | record line => exact le_rfl
  | back =>
    rw [next, back_eq hcursor]
    exact (Nat.sub_le _ _).trans hcursor
  | forward =>
    rw [next, forward_eq]
    exact min_le_left _ _

theorem cursor_le_after (steps : List Step) :
    (after {} steps).cursor ≤ (after {} steps).entries.length := by
  induction steps using List.reverseRecOn with
  | nil => exact le_rfl
  | append_singleton steps step ih =>
    rw [after_append_singleton]
    exact cursor_le_next ih step

/-- **The lines are those that were recorded**, but for empty ones and repetitions. -/
theorem entries_after (steps : List Step) : (after {} steps).entries = kept (recorded steps) := by
  induction steps using List.reverseRecOn with
  | nil => rfl
  | append_singleton steps step ih =>
    rw [after_append_singleton, recorded_append]
    cases step with
    | record line =>
      rw [next, entries_record, ih]
      refine Eq.trans ?_ (kept_append_singleton (recorded steps) line).symm
      exact if_congr (by rw [accepts_iff, ih]) rfl rfl
    | back =>
      have hnone : recorded [.back] = [] := rfl
      rw [next, back_eq (cursor_le_after steps), hnone, List.append_nil]
      exact ih
    | forward =>
      have hnone : recorded [.forward] = [] := rfl
      rw [next, forward_eq, hnone, List.append_nil]
      exact ih

/-- What a history is after some lines were recorded, and what the next step makes of it. -/
structure Recalls (lines : List String) (h : History) : Prop where
  entries : h.entries = kept lines
  cursor_le : h.cursor ≤ h.entries.length
  /-- A line is taken for a new one if there is one line more after it. -/
  accepts_iff : ∀ line,
    h.accepts line = true ↔ h.entries.length < (h.record line).entries.length
  cursor_record : ∀ line, (h.record line).cursor = (h.record line).entries.length
  /-- The first place is not left to the front. -/
  back : h.back = (h.entries[h.cursor - 1]?, { h with cursor := h.cursor - 1 })
  /-- The place behind the last line is not left to the back, and stands for the empty line. -/
  forward : h.forward = (h.entries[min h.entries.length (h.cursor + 1)]?.getD "",
    { h with cursor := min h.entries.length (h.cursor + 1) })
  forward_back : ∀ cursor, 1 ≤ cursor → cursor ≤ h.entries.length →
    ({ h with cursor } : History).back.2.forward.2 = { h with cursor }

theorem recalls_after (steps : List Step) : Recalls (recorded steps) (after {} steps) where
  entries := entries_after steps
  cursor_le := cursor_le_after steps
  accepts_iff line := by
    rw [entries_record]
    split <;> simp_all
  cursor_record _ := rfl
  back := back_eq (cursor_le_after steps)
  forward := forward_eq _
  forward_back _ hpos hle := forward_back hpos hle

end History

/-! ### The history of the organizer -/

namespace App

open Organizer.Action

/-- The organizer has this history. -/
def HasHistory (h : History) (app : App) : Prop := app.history = h

namespace HasHistory

variable {α : Type} {h : History}

theorem onDesk (a : Action Desk α) : Preserves (HasHistory h) (onDesk a) :=
  fun _ happ ↦ ⟨happ, .anything _⟩

theorem onScheduler (a : Action Scheduler α) : Preserves (HasHistory h) (onScheduler a) :=
  fun _ happ ↦ ⟨happ, .anything _⟩

theorem view (f : Desk → Except Failure α) : Preserves (HasHistory h) (view f) :=
  .of_readOnly (readOnly_view f) fun _ _ ↦ .anything _

/-- Reading the state first changes nothing. -/
theorem get_bind {f : App → Action App α} (hf : ∀ app, Preserves (HasHistory h) (f app)) :
    Preserves (HasHistory h) (get >>= f) :=
  .bind .get fun app _ ↦ hf app

/-- **No request touches the history.** -/
theorem answer (request : Request) : Preserves (HasHistory h) (answer request) := by
  cases request with
  | nothing | editNote term | help | clear => exact .pure trivial
  | openAddress address => exact (onDesk _).bind fun _ _ ↦ .pure trivial
  | helpOn topic =>
    rw [App.answer]
    split
    · exact .pure trivial
    · exact .refuse _
  | list kind | findContacts term | viewEvents day => exact view _
  | save kind path | load kind path | addNote text | deleteNote term | addTodo text
  | markDone word | addLink address name | goLink term | renameLink term newName
  | deleteLink term | addContact name info | deleteContacts name | addEvent day text
  | saveAgenda path | loadAgenda path => exact onDesk _
  | startPomodoro work rest | stopPomodoro | startCountdown minutes message | stopCountdown =>
    exact (onScheduler _).bind fun _ _ ↦ .pure trivial
  | month typed => exact get_bind fun _ ↦ .ofExcept (.anything _)
  | remind time message =>
    exact get_bind fun _ ↦ (onScheduler _).bind fun _ _ ↦ .pure trivial
  | time => exact get_bind fun _ ↦ .pure trivial
  | calculate expression => exact .ofExcept (.anything _)

theorem carryOut (request : Request) : Preserves (HasHistory h) (carryOut request) := by
  unfold App.carryOut
  split
  · exact (view _).bind fun _ _ ↦ .pure trivial
  · exact (answer _).bind fun _ _ ↦ .pure trivial

theorem dispatch (words : List String) : Preserves (HasHistory h) (dispatch words) := by
  unfold App.dispatch
  refine preserves_reporting _ ?_
  cases Request.ofWords words with
  | ok request => exact carryOut request
  | error reason => exact .refuse reason

theorem complete (editor : Editor) (progress : Progress) :
    Preserves (HasHistory h) (complete editor progress) := by
  cases progress with
  | answered responses => exact .pure trivial
  | editing place text => exact preserves_reporting _ (onDesk _)

theorem dispatchWith (editor : Editor) (words : List String) :
    Preserves (HasHistory h) (dispatchWith editor words) :=
  (dispatch words).bind fun _ _ ↦ complete editor _

end HasHistory

/-- **A line that is not blank goes into the history**, whatever comes of it. -/
theorem history_execute (line : String) (app : App) :
    ((execute line).perform app).2.history =
      if Text.strip line = "" then app.history else app.history.record (Text.strip line) := by
  rw [perform_execute]
  by_cases hblank : Text.strip line = ""
  · rw [if_pos hblank, if_pos (String.isEmpty_iff.2 hblank)]
  · rw [if_neg hblank, if_neg (mt String.isEmpty_iff.1 hblank)]
    have hrecorded : HasHistory (app.history.record (Text.strip line))
        { app with history := app.history.record (Text.strip line) } := rfl
    exact (HasHistory.dispatch (CommandLine.words (Text.strip line)) _ hrecorded).1

theorem history_executeWith (editor : Editor) (line : String) (app : App) :
    ((executeWith editor line).perform app).2.history =
      if Text.strip line = "" then app.history else app.history.record (Text.strip line) := by
  have hexecute : HasHistory (if Text.strip line = "" then app.history
      else app.history.record (Text.strip line)) ((execute line).perform app).2 :=
    history_execute line app
  rw [executeWith]
  exact holds_of_bind hexecute fun progress ↦ HasHistory.complete editor progress

/-- The lines that are typed in a run, without the blanks at their ends. -/
def typed (events : List Event) : List String :=
  events.filterMap fun
    | .line _ text => some (Text.strip text)
    | _ => none

/-- Between two restarts the history is what the typed lines make of it. -/
theorem history_after {events : List Event} (h : .restart ∉ events) (app : App) :
    (app.after events).history =
      app.history.after (((typed events).filter (· ≠ "")).map .record) := by
  induction events generalizing app with
  | nil => rfl
  | cons event events ih =>
    obtain ⟨hevent, hevents⟩ := not_or.1 (mt List.mem_cons.2 h)
    rw [after_cons, ih hevents]
    cases event with
    | words editor ws =>
      have hnext : (app.next (.words editor ws)).history = app.history :=
        (HasHistory.dispatchWith editor ws app rfl).1
      have htyped : typed (.words editor ws :: events) = typed events := rfl
      rw [hnext, htyped]
    | line editor text =>
      have htyped : typed (.line editor text :: events) = Text.strip text :: typed events := rfl
      rw [next, history_executeWith, htyped]
      by_cases hblank : Text.strip text = ""
      · rw [if_pos hblank, List.filter_cons_of_neg (by simpa using hblank)]
      · rw [if_neg hblank, List.filter_cons_of_pos (by simpa using hblank), List.map_cons,
          History.after_cons, History.next]
    | timer | clock | files => rfl
    | restart => exact absurd rfl hevent

end App

/-- **Lines are kept and recalled.** Whatever is done with a new history, its lines are those that
were recorded, without empty ones and repetitions; a line counts as new if there is one more after
it; and going back and forward moves the place one line and no further than the ends, so that the
way forward leads back. In a run of the organizer the lines are those that were typed, stripped of
blanks, whatever else happens and whatever comes of them. -/
theorem lines_kept_and_recalled (steps : List History.Step) (app : App) :
    History.Recalls (History.recorded steps) (History.after {} steps) ∧
      ∀ events : List App.Event, .restart ∉ events →
        (({ app with history := {} } : App).after events).history.entries =
          History.kept (App.typed events) := by
  refine ⟨History.recalls_after steps, fun events hevents ↦ ?_⟩
  rw [App.history_after hevents, History.entries_after, History.recorded_map_record,
    History.kept_filter]

/-- A line that fails is kept, and one that is typed again after a blank line is not. -/
theorem lines_kept_and_recalled_typed :
    let editor : Editor := fun _ _ ↦ none
    let events : List App.Event := [.line editor "note a ", .timer 0, .line editor " \t",
      .words editor ["todo", "b"], .line editor "\tnote a", .line editor "oops"]
    .restart ∉ events ∧
      ((App.setUp .memory).after events).history.entries = ["note a", "oops"] := by
  intro editor events
  have hevents : .restart ∉ events := by simp [events]
  obtain ⟨-, hentries⟩ := lines_kept_and_recalled [] (App.setUp .memory)
  exact ⟨hevents, (hentries events hevents).trans (by decide +kernel)⟩

end Organizer
