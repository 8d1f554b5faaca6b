import Organizer.Console.Machine
import Organizer.Proofs.CommandLine.Stripping
import Organizer.Proofs.History.Recalling

/-!
# How the console reads its lines

The console reads line after line, and a line is one of two things: a command, or the new text of a
note that the command before it has found. So the lines fall into turns, a command with the text
that it has asked for (`Turn`). Which line is which depends on the state, for only a command that
finds a note asks for a text. `Reads` says how an organizer reads lines, turn by turn: up to an exit
word in the place of a command, to the end, or to a turn that breaks the console off
(`Turn.breaks`).

One turn leaves the console waiting for the next command, whatever comes of it: an answer, a report
of an error, an unexpected failure, or responses that cannot be presented. It breaks the console off
only if the terminal does not take what is to be printed, or if its line editor does not take the
command (`IsAt.run_turn`). What a turn does to the organizer is the same in all these cases: what
the command does with an editor that answers with the text (`Turn.event`). Hence a whole run is the
run of the organizer on the turns (`lines_taken_in_turns`); but lines can be left unread without an
exit word (`lines_not_always_executed`).
-/

namespace Organizer

open Organizer.Action Text

/-! ### Commands that ask for a text -/

namespace App

variable {app app' : App} {line : String} {place : ℕ} {text : String}

/-- The place of the note for which a line asks for a new text. -/
@[irreducible]
def asked? (app : App) (line : String) : Option ℕ :=
  match ((execute line).perform app).1 with
  | .ok (.editing place _) => some place
  | _ => none

theorem asked?_eq_some :
    app.asked? line = some place ↔
      ∃ text app', (execute line).perform app = (.ok (.editing place text), app') := by
  rw [asked?]
  rcases (execute line).perform app with ⟨- | - | ⟨place', text⟩, app'⟩ <;> simp

/-- Only a request to edit a note asks for a text, if the note is found. -/
theorem carryOut_eq_editing {request : Request} {place : ℕ} {text : String} :
    (carryOut request).perform app = (.ok (.editing place text), app') ↔
      app' = app ∧ ∃ term, request = .editNote term ∧
        Notes.beginEdit term app.desk = .ok (place, text) := by
  have hview (term : String) : (view (Notes.beginEdit term)).perform app =
      (Notes.beginEdit term app.desk, app) := by
    rw [view, perform_bind_of_ok (perform_get app), perform_ofExcept]
  unfold carryOut
  split
  · rename_i term
    rw [perform_bind, hview]
    rcases hbegin : Notes.beginEdit term app.desk with e | ⟨place', text'⟩
    · simp [hbegin]
    · simp [hbegin, and_comm, eq_comm (a := app)]
  · rename_i hother
    constructor
    · intro h
      obtain ⟨responses, u, -, h⟩ := perform_bind_eq_ok.1 h
      cases congrArg Prod.fst h
    · rintro ⟨-, term, rfl, -⟩
      exact absurd rfl (hother term)

theorem dispatch_eq_editing {words : List String} {place : ℕ} {text : String} :
    (dispatch words).perform app = (.ok (.editing place text), app') ↔
      app' = app ∧ ∃ term, Request.ofWords words = .ok (.editNote term) ∧
        Notes.beginEdit term app.desk = .ok (place, text) := by
  constructor
  · intro h
    rcases dispatch_eq_ok h with ⟨request, hwords, h⟩ | ⟨reason, -, h⟩
    · obtain ⟨rfl, term, rfl, hbegin⟩ := carryOut_eq_editing.1 h
      exact ⟨rfl, term, hwords, hbegin⟩
    · cases h
  · rintro ⟨rfl, term, hwords, hbegin⟩
    exact perform_dispatch_of_ofWords hwords (carryOut_eq_editing.2 ⟨rfl, term, rfl, hbegin⟩)

theorem execute_eq_editing :
    (execute line).perform app = (.ok (.editing place text), app') ↔
      app' = { app with history := app.history.record (strip line) } ∧
        ∃ term, Request.ofWords (CommandLine.words (strip line)) = .ok (.editNote term) ∧
          Notes.beginEdit term app.desk = .ok (place, text) := by
  rw [perform_execute]
  split
  · rename_i hblank
    have hwords : CommandLine.words "" = [] := by decide +kernel
    rw [String.isEmpty_iff.1 hblank, hwords]
    simp [Request.ofWords]
  · exact dispatch_eq_editing

/-- To ask for a text leaves the desk as it is. -/
theorem desk_of_editing (h : (execute line).perform app = (.ok (.editing place text), app')) :
    app'.desk = app.desk := by
  obtain ⟨rfl, -⟩ := execute_eq_editing.1 h
  rfl

/-- A line is a request to edit a note, and the note is found and can be shown. -/
def FindsNote (terminal : Terminal) (app : App) (line : String) : Prop :=
  ∃ term place text, Request.ofWords (CommandLine.words (strip line)) = .ok (.editNote term) ∧
    Notes.beginEdit term app.desk = .ok (place, text) ∧
    terminal.showsNote place app.desk = true

/-- **A line asks for a text if it is a request to edit a note that is found.** -/
theorem findsNote_iff {terminal : Terminal} :
    app.FindsNote terminal line ↔
      ∃ place, app.asked? line = some place ∧ terminal.showsNote place app.desk = true := by
  simp only [FindsNote, asked?_eq_some, execute_eq_editing]
  constructor
  · rintro ⟨term, place, text, hwords, hbegin, hshows⟩
    exact ⟨place, ⟨text, _, rfl, term, hwords, hbegin⟩, hshows⟩
  · rintro ⟨place, ⟨text, app', -, term, hwords, hbegin⟩, hshows⟩
    exact ⟨term, place, text, hwords, hbegin, hshows⟩

theorem findsNote_strip {terminal : Terminal} :
    app.FindsNote terminal (strip line) ↔ app.FindsNote terminal line := by
  rw [FindsNote, FindsNote, strip_strip]

/-- A line that asks for no text is executed to its end, without an editor. -/
theorem exists_outcome (hasked : app.asked? line = none) (editor : Editor) :
    ∃ outcome app', (execute line).perform app = (outcome.map .answered, app') ∧
      (executeWith editor line).perform app = (outcome, app') := by
  rcases hrun : (execute line).perform app with ⟨e | responses | ⟨place, text⟩, app'⟩
  · exact ⟨.error e, app', rfl, by rw [executeWith, perform_bind_of_error hrun]⟩
  · exact ⟨.ok responses, app', rfl, by rw [executeWith, perform_bind_of_ok hrun]; rfl⟩
  · cases hasked.symm.trans (asked?_eq_some.2 ⟨text, app', hrun⟩)

/-- A line that asks for a text is executed to its end with what the editor answers. -/
theorem executeWith_of_editing (h : (execute line).perform app = (.ok (.editing place text), app'))
    (editor : Editor) :
    (executeWith editor line).perform app = (finish place (editor place text)).perform app' := by
  rw [executeWith, perform_bind_of_ok h]
  rfl

/-- Without a new text nothing changes. -/
theorem finish_none (app : App) (place : ℕ) :
    (finish place none).perform app = (.ok (Response.reply "Edit cancelled."), app) := rfl

end App

namespace Console

/-! ### Turns -/

/-- Does a line end the program, where a command is expected? -/
def isExit (line : String) : Bool := exitWords.contains (strip line)

/-- A command, with the line that is read as the text that it asks for. -/
structure Turn where
  command : String
  /-- There is none if the command does not ask for a text, or at the end of the input. -/
  reply : Option String
  deriving DecidableEq, Repr

namespace Turn

/-- The lines of a turn. -/
def lines (t : Turn) : List String := t.command :: t.reply.toList

/-- The new text of a note: a line without the blanks around it. A blank line is no text. -/
def newText (line : String) : Option String :=
  if (strip line).isEmpty then none else some (strip line)

/-- The editor that answers with what was read. -/
def editor (t : Turn) : Editor := fun _ _ ↦ t.reply.bind newText

/-- What a turn is for the organizer: a line that is executed, with an editor. -/
def event (t : Turn) : App.Event := .line t.editor (strip t.command)

/-- Does a turn break the console off? It does if the note to edit cannot be shown, if responses
cannot be printed, or if the line editor does not take a command that is new in the history. -/
def breaks (terminal : Terminal) (app : App) (t : Turn) : Bool :=
  let line := strip t.command
  (app.asked? line).any (fun place ↦ !terminal.showsNote place app.desk) ||
    !terminal.printsAll (responsesOf ((App.executeWith t.editor line).perform app).1) ||
    app.history.accepts line && !terminal.remembers line

/-- A turn can be taken, by an organizer that has come so far, if these lines come after it. -/
structure IsTaken (terminal : Terminal) (app : App) (t : Turn) (rest : List String) : Prop where
  not_exit : isExit t.command = false
  /-- A reply is read only for a note that was found. -/
  finds : t.reply.isSome = true → app.FindsNote terminal t.command
  /-- It is read, unless the input is at its end. -/
  replied : app.FindsNote terminal t.command → t.reply.isSome = true ∨ rest = []

end Turn

/-- How lines have been read. -/
structure Reading where
  turns : List Turn
  unread : List String
  ending : Ending

namespace Reading

/-- All lines, those that were left unread included. -/
def lines (r : Reading) : List String := r.turns.flatMap Turn.lines ++ r.unread

/-- The reading with a turn in front. -/
def cons (t : Turn) (r : Reading) : Reading := { r with turns := t :: r.turns }

@[simp] theorem turns_cons (t : Turn) (r : Reading) : (r.cons t).turns = t :: r.turns := rfl

@[simp] theorem ending_cons (t : Turn) (r : Reading) : (r.cons t).ending = r.ending := rfl

theorem lines_cons (t : Turn) (r : Reading) : (r.cons t).lines = t.lines ++ r.lines := by
  rw [lines, lines, cons, List.flatMap_cons, List.append_assoc]

end Reading

/-- How an organizer reads lines, turn by turn. -/
inductive Reads (terminal : Terminal) : App → Reading → Prop
  /-- At the end of the input. -/
  | ended (app : App) : Reads terminal app ⟨[], [], .closed⟩
  /-- An exit word in the place of a command. What comes after it is not read. -/
  | exit (app : App) {word : String} (hexit : isExit word = true) (rest : List String) :
    Reads terminal app ⟨[], word :: rest, .closed⟩
  /-- A turn that breaks the console off. What comes after it is not read. -/
  | broken {app : App} {t : Turn} {rest : List String} (ht : t.IsTaken terminal app rest)
    (hbreaks : t.breaks terminal app = true) : Reads terminal app ⟨[t], rest, .failed⟩
  /-- Any other turn. What comes after it is read by the organizer that it leaves. -/
  | turn {app : App} {t : Turn} {r : Reading} (ht : t.IsTaken terminal app r.lines)
    (hbreaks : t.breaks terminal app = false) (hr : Reads terminal (app.next t.event) r) :
    Reads terminal app (r.cons t)

variable {terminal : Terminal} {app : App} {command : String}

/-- Responses without lone halves can be printed on every terminal. -/
theorem printsAll_of_whole {responses : List Response} (h : ∀ r ∈ responses, r.torn = false) :
    terminal.printsAll responses = true := by
  induction responses with
  | nil => rfl
  | cons r responses ih =>
    obtain ⟨hr, hrest⟩ := List.forall_mem_cons.1 h
    simp [Terminal.printsAll, Terminal.prints, hr, ih hrest]

/-- The console on a terminal with the organizer behind it, and what it waits for. -/
structure IsAt (c : Console) (terminal : Terminal) (app : App) (expects : Expectation) : Prop where
  terminal : c.terminal = terminal
  app : c.app = app
  expects : c.expects = expects

variable {c : Console}

/-- Printing changes neither the terminal nor the organizer. -/
theorem printResponses_frame (c : Console) (responses : List Response) :
    (c.printResponses responses).terminal = c.terminal ∧
      (c.printResponses responses).app = c.app := by
  induction responses generalizing c with
  | nil => exact ⟨rfl, rfl⟩
  | cons r responses ih =>
    rw [printResponses]
    split
    · split
      · exact ih _
      · exact ⟨rfl, rfl⟩
    · exact ⟨rfl, rfl⟩

/-- What the console waits for after a turn. -/
def awaited (broken : Bool) : Expectation := if broken then .nothing .failed else .command

/-- **After a command the next one is awaited**, whatever comes of it, and if it is presented or
not; but for what cannot be printed or entered. -/
theorem isAt_conclude (c : Console) (unentered : Option String)
    (outcome : Except Failure (List Response)) :
    (c.conclude unentered outcome).IsAt c.terminal c.app (awaited
      (!c.terminal.printsAll (responsesOf outcome) || !unentered.all c.terminal.remembers)) := by
  obtain ⟨hterminal, happ⟩ := printResponses_frame c (responsesOf outcome)
  rw [conclude, ← Bool.not_and]
  cases c.terminal.printsAll (responsesOf outcome) && unentered.all c.terminal.remembers with
  | true => exact ⟨hterminal, happ, rfl⟩
  | false => exact ⟨hterminal, happ, rfl⟩

theorem isAt_awaitNoteText (c : Console) (place : ℕ) (text : String) (unentered : Option String) :
    (c.awaitNoteText place text unentered).IsAt c.terminal c.app
      (if c.terminal.showsNote place c.app.desk then .noteText place unentered
        else .nothing .failed) := by
  cases hshows : c.terminal.showsNote place c.app.desk <;>
    simp only [awaitNoteText, print, hshows, Bool.false_eq_true, ↓reduceIte] <;>
    exact ⟨rfl, rfl, rfl⟩

/-- A line is to be entered if it is new in the history. -/
theorem all_unentered (app : App) (line : String) (p : String → Bool) :
    (unentered app ((App.execute (strip line)).perform app).2 (strip line)).all p =
      !(app.history.accepts (strip line) && !p (strip line)) := by
  rw [unentered, App.history_execute, strip_strip]
  by_cases hblank : strip line = ""
  · simp [hblank, History.accepts]
  · cases haccepts : app.history.accepts (strip line) <;> simp [hblank, History.record, haccepts]

theorem step_ended {ending : Ending} (h : c.expects = .nothing ending) (input : Input) :
    c.step input = c := by
  unfold step
  rw [h]

theorem step_exit (h : c.expects = .command) (hexit : isExit command = true) :
    c.step (.line command) = c.close "✔ Data saved. Bye!\n" := by
  unfold step
  rw [h]
  dsimp only
  rw [← isExit, if_pos hexit]

/-- A line that is no exit word is executed as a command. -/
theorem step_line (h : c.expects = .command) (hexit : isExit command = false) :
    c.step (.line command) = c.runCommand (strip command) := by
  unfold step
  rw [h]
  dsimp only
  rw [← isExit, hexit, if_neg Bool.false_ne_true]

theorem step_endOfInput (h : c.expects = .command) :
    c.step .endOfInput = c.close "\n✔ Bye!\n" := by
  unfold step
  rw [h]

section Reply

variable {place : ℕ} {unentered : Option String}

theorem step_reply (h : c.expects = .noteText place unentered) (reply : String) :
    c.step (.line reply) = c.takeNoteText place unentered reply := by
  unfold step
  rw [h]

theorem step_noReply (h : c.expects = .noteText place unentered) :
    c.step .endOfInput = c.conclude unentered (.error .unexpected) := by
  unfold step
  rw [h]

end Reply

/-- Whether a turn whose note can be shown breaks the console off depends on what is printed and
entered in the end. -/
theorem Turn.breaks_eq {t : Turn}
    (hshows : ∀ place, app.asked? (strip t.command) = some place →
      terminal.showsNote place app.desk = true) :
    t.breaks terminal app =
      (!terminal.printsAll (responsesOf
        ((App.executeWith t.editor (strip t.command)).perform app).1) ||
      !(unentered app ((App.execute (strip t.command)).perform app).2
        (strip t.command)).all terminal.remembers) := by
  have hshown : (app.asked? (strip t.command)).any
      (fun place ↦ !terminal.showsNote place app.desk) = false := by
    cases hasked : app.asked? (strip t.command) with
    | none => rfl
    | some place => rw [Option.any_some, hshows place hasked]; rfl
  rw [Turn.breaks, hshown, all_unentered, Bool.false_or, Bool.not_not]

/-- When a turn comes to its end, the next command is awaited, unless the turn breaks. -/
theorem isAt_conclude_turn (c : Console) (t : Turn)
    (hshows : ∀ place, app.asked? (strip t.command) = some place →
      terminal.showsNote place app.desk = true)
    (hterminal : c.terminal = terminal) (happ : c.app = app.next t.event)
    {app' : App} (happ' : ((App.execute (strip t.command)).perform app).2 = app')
    {outcome : Except Failure (List Response)}
    (houtcome : terminal.printsAll (responsesOf outcome) = terminal.printsAll (responsesOf
      ((App.executeWith t.editor (strip t.command)).perform app).1)) :
    (c.conclude (unentered app app' (strip t.command)) outcome).IsAt terminal (app.next t.event)
      (awaited (t.breaks terminal app)) := by
  rw [Turn.breaks_eq hshows, happ', ← houtcome, ← happ, ← hterminal]
  exact isAt_conclude c _ outcome

namespace IsAt

/-- A command that asks for no text is a turn. -/
theorem answered (h : c.IsAt terminal app .command) (hexit : isExit command = false)
    (hasked : app.asked? (strip command) = none) :
    (c.step (.line command)).IsAt terminal (app.next (Turn.mk command none).event)
      (awaited ((Turn.mk command none).breaks terminal app)) := by
  let t : Turn := ⟨command, none⟩
  have hshows : ∀ place, app.asked? (strip t.command) = some place →
      terminal.showsNote place app.desk = true := fun place h ↦ by cases hasked.symm.trans h
  obtain ⟨outcome, app', hexecute, hcomplete⟩ := App.exists_outcome hasked t.editor
  have hrun : c.runCommand (strip command) =
      { c with app := app' }.conclude (unentered app app' (strip command)) outcome := by
    rw [runCommand, h.app, hexecute]
    cases outcome <;> rfl
  have hnext : app' = app.next t.event := (congrArg Prod.snd hcomplete).symm
  rw [step_line h.expects hexit, hrun]
  exact isAt_conclude_turn { c with app := app' } t hshows h.terminal hnext
    (congrArg Prod.snd hexecute) (by rw [hcomplete])

section Asked

variable {place : ℕ} {text : String} {app' : App}

/-- A command that asks for a text makes the console wait for it, if the note can be shown. -/
theorem asking (h : c.IsAt terminal app .command) (hexit : isExit command = false)
    (hrun : (App.execute (strip command)).perform app = (.ok (.editing place text), app')) :
    (c.step (.line command)).IsAt terminal app' (if terminal.showsNote place app.desk then
      .noteText place (unentered app app' (strip command)) else .nothing .failed) := by
  obtain ⟨rfl, rfl, hexpects⟩ := h
  rw [step_line hexpects hexit, runCommand, hrun, ← App.desk_of_editing hrun]
  exact isAt_awaitNoteText { c with app := app' } place text _

/-- If it cannot be shown, this is a turn. -/
theorem unshown (h : c.IsAt terminal app .command) (hexit : isExit command = false)
    (hasked : app.asked? (strip command) = some place)
    (hshows : terminal.showsNote place app.desk = false) :
    (c.step (.line command)).IsAt terminal (app.next (Turn.mk command none).event)
      (awaited ((Turn.mk command none).breaks terminal app)) := by
  obtain ⟨text, app', hrun⟩ := App.asked?_eq_some.1 hasked
  have hasking := h.asking hexit hrun
  have hbreaks : (Turn.mk command none).breaks terminal app = true := by
    rw [Turn.breaks, hasked, Option.any_some, hshows]
    rfl
  have hnext : app.next (Turn.mk command none).event = app' :=
    congrArg Prod.snd (App.executeWith_of_editing hrun (Turn.mk command none).editor)
  rw [hshows] at hasking
  rw [hbreaks, hnext]
  exact hasking

theorem showsNote_of_asked? (hasked : app.asked? (strip command) = some place)
    (hshows : terminal.showsNote place app.desk = true) :
    ∀ place, app.asked? (strip command) = some place →
      terminal.showsNote place app.desk = true := by
  intro place' hasked'
  obtain rfl := Option.some.inj (hasked.symm.trans hasked')
  exact hshows

/-- Else it is a turn with the next line. -/
theorem replied (h : c.IsAt terminal app .command) (hexit : isExit command = false)
    (hasked : app.asked? (strip command) = some place)
    (hshows : terminal.showsNote place app.desk = true) (reply : String) :
    ((c.step (.line command)).step (.line reply)).IsAt terminal
      (app.next (Turn.mk command (some reply)).event)
      (awaited ((Turn.mk command (some reply)).breaks terminal app)) := by
  let t : Turn := ⟨command, some reply⟩
  obtain ⟨text, app', hrun⟩ := App.asked?_eq_some.1 hasked
  have hasking := h.asking hexit hrun
  rw [hshows, if_pos rfl] at hasking
  have hexecute := App.executeWith_of_editing hrun t.editor
  have heditor : t.editor place text = Turn.newText reply := rfl
  rw [step_reply hasking.expects, takeNoteText, hasking.app]
  rw [heditor, Turn.newText] at hexecute
  rcases hfinish : (App.finish place _).perform app' with ⟨outcome, app''⟩
  have hnext : app'' = app.next t.event := by
    rw [hfinish] at hexecute
    exact (congrArg Prod.snd hexecute).symm
  exact isAt_conclude_turn { c.step (.line command) with app := app'' } t
    (showsNote_of_asked? hasked hshows) hasking.terminal hnext (congrArg Prod.snd hrun)
    (by rw [hexecute, hfinish])

/-- At the end of the input it is a turn by itself. -/
theorem unanswered (h : c.IsAt terminal app .command) (hexit : isExit command = false)
    (hasked : app.asked? (strip command) = some place)
    (hshows : terminal.showsNote place app.desk = true) :
    ((c.step (.line command)).step .endOfInput).IsAt terminal
      (app.next (Turn.mk command none).event)
      (awaited ((Turn.mk command none).breaks terminal app)) := by
  let t : Turn := ⟨command, none⟩
  obtain ⟨text, app', hrun⟩ := App.asked?_eq_some.1 hasked
  have hasking := h.asking hexit hrun
  rw [hshows, if_pos rfl] at hasking
  have hexecute : (App.executeWith t.editor (strip command)).perform app =
      (.ok (Response.reply "Edit cancelled."), app') :=
    (App.executeWith_of_editing hrun t.editor).trans (App.finish_none app' place)
  have hnext : app' = app.next t.event := (congrArg Prod.snd hexecute).symm
  have hfailure : terminal.printsAll (responsesOf (.error .unexpected)) = true :=
    printsAll_of_whole (by decide)
  have hcancelled : terminal.printsAll (responsesOf (.ok (Response.reply "Edit cancelled."))) =
      true := printsAll_of_whole (by decide)
  rw [step_noReply hasking.expects]
  exact isAt_conclude_turn _ t (showsNote_of_asked? hasked hshows) hasking.terminal
    (hasking.app.trans hnext) (congrArg Prod.snd hrun) (by rw [hexecute, hfailure, hcancelled])

end Asked

end IsAt

/-! ### Runs -/

theorem run_ended {ending : Ending} (h : c.expects = .nothing ending) (inputs : List Input) :
    c.run inputs = c := by
  have hread : inputs.foldl step c = c := by
    induction inputs with
    | nil => rfl
    | cons input inputs ih => rw [List.foldl_cons, step_ended h, ih]
  rw [run, hread, step_ended h, step_ended h]

theorem run_cons (c : Console) (input : Input) (inputs : List Input) :
    c.run (input :: inputs) = (c.step input).run inputs := rfl

/-- At the end of the input the program ends. -/
theorem IsAt.step_endOfInput (h : c.IsAt terminal app .command) :
    (c.step .endOfInput).IsAt terminal app (.nothing .closed) := by
  rw [Console.step_endOfInput h.expects]
  exact ⟨h.terminal, h.app, rfl⟩

theorem IsAt.run_nil (h : c.IsAt terminal app .command) :
    (c.run []).IsAt terminal app (.nothing .closed) := by
  rw [run, List.foldl_nil, step_ended h.step_endOfInput.expects]
  exact h.step_endOfInput

/-- After a turn the end of the input need not be found twice. -/
theorem IsAt.run_nil_eq {broken : Bool} (h : c.IsAt terminal app (awaited broken)) :
    c.run [] = c.step .endOfInput := by
  cases broken with
  | true => rw [run_ended h.expects, step_ended h.expects]
  | false => rw [run, List.foldl_nil, step_ended h.step_endOfInput.expects]

/-- An exit word ends the program, whatever comes after it. -/
theorem IsAt.run_exit (h : c.IsAt terminal app .command) (hexit : isExit command = true)
    (inputs : List Input) :
    c.run (.line command :: inputs) = c.close "✔ Data saved. Bye!\n" := by
  have hclosed : (c.close "✔ Data saved. Bye!\n").expects = .nothing .closed := rfl
  rw [run_cons, step_exit h.expects hexit, run_ended hclosed]

/-- **One turn** takes its lines, whatever comes after them, and leaves the console waiting for the
next command, unless it breaks. A turn at the end of the input is one only there. -/
theorem IsAt.run_turn (h : c.IsAt terminal app .command) {t : Turn} {rest : List String}
    (ht : t.IsTaken terminal app rest) :
    ∃ c' : Console, c'.IsAt terminal (app.next t.event) (awaited (t.breaks terminal app)) ∧
      ∀ others : List String, (rest = [] → others = []) →
        c.run ((t.lines ++ others).map .line) = c'.run (others.map .line) := by
  obtain ⟨command, reply⟩ := t
  cases reply with
  | some reply =>
    obtain ⟨place, hasked, hshows⟩ := App.findsNote_iff.1 (App.findsNote_strip.2 (ht.finds rfl))
    exact ⟨_, h.replied ht.not_exit hasked hshows reply, fun others _ ↦ rfl⟩
  | none =>
    cases hasked : app.asked? (strip command) with
    | none => exact ⟨_, h.answered ht.not_exit hasked, fun others _ ↦ rfl⟩
    | some place =>
      cases hshows : terminal.showsNote place app.desk with
      | false => exact ⟨_, h.unshown ht.not_exit hasked hshows, fun others _ ↦ rfl⟩
      | true =>
        have hfinds : app.FindsNote terminal command :=
          App.findsNote_strip.1 (App.findsNote_iff.2 ⟨place, hasked, hshows⟩)
        have hrest : rest = [] := (ht.replied hfinds).resolve_left Bool.false_ne_true
        have hafter := h.unanswered ht.not_exit hasked hshows
        refine ⟨_, hafter, fun others hothers ↦ ?_⟩
        rw [hothers hrest]
        exact hafter.run_nil_eq.symm

/-- **A run of the console is a run of the organizer on the turns.** -/
theorem Reads.run {r : Reading} (hr : Reads terminal app r) (h : c.IsAt terminal app .command) :
    (c.run (r.lines.map .line)).IsAt terminal (app.after (r.turns.map Turn.event))
      (.nothing r.ending) := by
  induction hr generalizing c with
  | ended app => exact h.run_nil
  | exit app hexit rest =>
    rw [Reading.lines, List.flatMap_nil, List.nil_append, List.map_cons, h.run_exit hexit]
    exact ⟨h.terminal, h.app, rfl⟩
  | broken ht hbreaks =>
    obtain ⟨c', hc', hrun⟩ := h.run_turn ht
    rw [hbreaks] at hc'
    rw [Reading.lines, List.flatMap_singleton, hrun _ id, run_ended hc'.expects]
    exact hc'
  | turn ht hbreaks hr ih =>
    obtain ⟨c', hc', hrun⟩ := h.run_turn ht
    rw [hbreaks] at hc'
    rw [Reading.lines_cons, hrun _ id, Reading.turns_cons, Reading.ending_cons, List.map_cons,
      App.after_cons]
    exact ih hc'

/-- Where the terminal takes everything, no turn breaks, and so only an exit word leaves lines
unread. -/
theorem Reads.ending_eq_closed {r : Reading} (hr : Reads terminal app r)
    (htorn : terminal.takesTorn = true) (hremembers : ∀ line, terminal.remembers line = true) :
    r.ending = .closed := by
  have hprints (responses : List Response) : terminal.printsAll responses = true := by
    induction responses with
    | nil => rfl
    | cons r responses ih => simp [Terminal.printsAll, Terminal.prints, htorn, ih]
  induction hr with
  | ended | exit => rfl
  | broken ht hbreaks =>
    refine absurd hbreaks (Bool.eq_false_iff.1 ?_)
    simp [Turn.breaks, Terminal.showsNote, htorn, hprints, hremembers]
  | turn ht hbreaks hr ih => exact ih

end Console

open Console

/-- An organizer with a note. -/
def App.withOneNote (text : String) : App where
  desk := {
    store := ⟨[(.text Notes.collection.key, .arr [.str text])], .memory⟩
    home := ⟨.slash, ["home"]⟩
    savedFiles := ⟨.slash, ["home", "saved"]⟩ }
  scheduler := { defaults := ⟨25, 5⟩ }
  now := { date := ⟨2024, 2, 29⟩ }

/-- An exit word is a text where a text is expected, and nothing but an end where a command is. -/
example : ((start (App.withOneNote "tea") false).run (["note edit tea", "exit", "note edit tea",
    " quit ", "x"].map .line)).app.history.entries = ["note edit tea"] := by decide +kernel

/-- A note with a lone half, from a file, cannot be listed. -/
example : ((start (App.setUp .memory) false).run
    (["note open torn.txt", "note", "note add c"].map .line)).expects = .nothing .failed := by
  decide +kernel

end Organizer
