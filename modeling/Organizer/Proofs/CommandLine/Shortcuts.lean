import Organizer.Proofs.CommandLine.Spelling
import Organizer.Proofs.Collection.Restoring

/-!
# Words that can be left out

A command of a collection is named in the singular or in the plural, and the word `add` can be left
out before what is to be added to the notes, the to-do items and the links. Neither makes a
difference to anything (`dispatchWith_shortcuts`): the words make one and the same request, and all
that comes of them comes of the request.

The word can be left out exactly where the next one is no action of the command
(`Request.ofWords_eq_ofWords_add_iff`). An action is never taken for something to add, so that a note
that begins with such a word has to be added by the longer form.
-/

namespace Organizer

/-! ### Commands of collections -/

namespace RecordKind

/-- The command for a collection. -/
def command : RecordKind → String
  | .notes => "note"
  | .todos => "todo"
  | .links => "link"
  | .contacts => "contact"

/-- The other word for the command. -/
def plural : RecordKind → String
  | .notes => "notes"
  | .todos => "todos"
  | .links => "links"
  | .contacts => "contacts"

/-- The words that the command takes for an action. -/
def actions : RecordKind → List String
  | .notes => ["add", "edit", "del", "save", "open"]
  | .todos => ["add", "done", "save", "open"]
  | .links => ["add", "del", "edit", "go", "save", "open"]
  | .contacts => ["add", "find", "del", "save", "open"]

/-- The request to add what some words say. -/
def adding : RecordKind → List String → Request
  | .notes, ws => .addNote (Request.joined ws)
  | .todos, ws => .addTodo (Request.joined ws)
  | .links, ws => .addLink (Request.first ws) (Request.rest ws)
  | .contacts, ws => .addContact (Request.first ws) (Request.rest ws)

end RecordKind

namespace Request

variable {kind : RecordKind} {w : String} {ws : List String}

/-- The command is no address, and its words are read by the rules for the collection. -/
theorem ofWords_command (kind : RecordKind) (ws : List String) :
    ofWords (kind.command :: ws) =
      match kind with
      | .notes => .ok (ofNoteWords ws)
      | .todos => .ok (ofTodoWords ws)
      | .links => .ok (ofLinkWords ws)
      | .contacts => ofContactWords ws := by
  cases kind <;> rfl

/-- **The plural is as good as the singular.** -/
theorem ofWords_plural (kind : RecordKind) (ws : List String) :
    ofWords (kind.plural :: ws) = ofWords (kind.command :: ws) := by
  cases kind <;> rfl

/-- Something is added by the action for it. -/
theorem ofWords_add (kind : RecordKind) (ws : List String) :
    ofWords (kind.command :: "add" :: ws) = .ok (kind.adding ws) := by
  cases kind <;> rfl

/-- What is no action is something to add; a contact takes more than a name. -/
theorem ofWords_of_not_mem_actions (h : w ∉ kind.actions) :
    ofWords (kind.command :: w :: ws) =
      if kind = .contacts then .error (.unknownAction .contact) else .ok (kind.adding (w :: ws)) := by
  rw [ofWords_command]
  cases kind with
  | notes =>
    unfold ofNoteWords
    split <;> simp_all [RecordKind.actions, RecordKind.adding]
  | todos =>
    unfold ofTodoWords
    split <;> simp_all [RecordKind.actions, RecordKind.adding]
  | links =>
    unfold ofLinkWords
    split <;> simp_all [RecordKind.actions, RecordKind.adding]
  | contacts =>
    unfold ofContactWords
    split <;> simp_all [RecordKind.actions]

/-- Another word makes the text longer. -/
theorem length_joined_cons (w : String) (ws : List String) :
    w.length + (joined ws).length ≤ (joined (w :: ws)).length := by
  cases ws with
  | nil => simp [joined]
  | cons v ws =>
    have h := congrArg List.length (CommandLine.toList_joined_cons_cons w v ws)
    simp only [List.length_append, String.length_toList] at h
    omega

theorem joined_ne_joined_add (ws : List String) : joined ws ≠ joined ("add" :: ws) := by
  intro h
  have hlength := length_joined_cons "add" ws
  have hadd : "add".length = 3 := by decide
  rw [← h, hadd] at hlength
  omega

/-- To add the word for adding is something else than to add what follows it. -/
theorem adding_ne_adding_add (kind : RecordKind) (ws : List String) :
    kind.adding ws ≠ kind.adding ("add" :: ws) := by
  -- a first word and a rest agree with those of a longer list only if the word comes once more
  have hpair (hfirst : first ws = "add") : rest ws ≠ joined ws := by
    cases ws with
    | nil => exact absurd hfirst (by decide)
    | cons w ws =>
      obtain rfl : w = "add" := hfirst
      exact joined_ne_joined_add ws
  intro h
  cases kind with
  | notes => exact joined_ne_joined_add ws (addNote.inj h)
  | todos => exact joined_ne_joined_add ws (addTodo.inj h)
  | links => exact hpair (addLink.inj h).1 (addLink.inj h).2
  | contacts => exact hpair (addContact.inj h).1 (addContact.inj h).2

/-- An action is not taken for something to add. -/
theorem ofWords_ne_adding_of_mem_actions (h : w ∈ kind.actions) :
    ofWords (kind.command :: w :: ws) ≠ .ok (kind.adding (w :: ws)) := by
  intro heq
  by_cases hw : w = "add"
  · subst hw
    rw [ofWords_add] at heq
    exact adding_ne_adding_add kind ws (Except.ok.inj heq)
  · rw [ofWords_command] at heq
    cases kind with
    | notes | todos | contacts =>
      simp only [RecordKind.actions, List.mem_cons, List.not_mem_nil, or_false, hw, false_or] at h
      rcases h with rfl | rfl | rfl | rfl <;> cases heq
    | links =>
      simp only [RecordKind.actions, List.mem_cons, List.not_mem_nil, or_false, hw, false_or] at h
      rcases h with rfl | rfl | rfl | rfl | rfl <;> cases heq

/-- **The word for adding can be left out** exactly before a word that is no action. -/
theorem ofWords_eq_ofWords_add_iff (h : kind ≠ .contacts) :
    ofWords (kind.command :: w :: ws) = ofWords (kind.command :: "add" :: w :: ws) ↔
      w ∉ kind.actions := by
  rw [ofWords_add]
  refine ⟨fun heq hw ↦ ofWords_ne_adding_of_mem_actions hw heq, fun hw ↦ ?_⟩
  rw [ofWords_of_not_mem_actions hw, if_neg h]

end Request

namespace App

/-- Words that make the same request are the same to the organizer. -/
theorem dispatchWith_congr {words words' : List String}
    (h : Request.ofWords words = Request.ofWords words') (editor : Editor) :
    dispatchWith editor words = dispatchWith editor words' := by
  rw [dispatchWith, dispatchWith, dispatch, dispatch, h]

/-- **Words that can be left out make no difference.** In every state, and whatever comes of it, an
error included, the responses and the state after them are the same with and without the word for
adding, unless the first word of what is added is an action of the command; and they are the same
for the singular and the plural of a command. -/
theorem dispatchWith_shortcuts (editor : Editor) (app : App) :
    (∀ kind : RecordKind, kind ≠ .contacts → ∀ w ∉ kind.actions, ∀ ws,
      (dispatchWith editor (kind.command :: w :: ws)).perform app =
        (dispatchWith editor (kind.command :: "add" :: w :: ws)).perform app) ∧
    ∀ (kind : RecordKind) (words : List String),
      (dispatchWith editor (kind.plural :: words)).perform app =
        (dispatchWith editor (kind.command :: words)).perform app := by
  constructor
  · intro kind hkind w hw ws
    rw [dispatchWith_congr ((Request.ofWords_eq_ofWords_add_iff hkind).2 hw)]
  · intro kind words
    rw [dispatchWith_congr (Request.ofWords_plural kind words)]

/-- A link is added by its address alone, whichever way the command is named. -/
theorem dispatchWith_shortcuts_link :
    let app := setUp .memory
    let editor : Editor := fun _ _ ↦ none
    "x.com" ∉ RecordKind.links.actions ∧
      (dispatchWith editor ["links", "x.com", "a", "b"]).perform app =
        (dispatchWith editor ["link", "add", "x.com", "a", "b"]).perform app ∧
      ((dispatchWith editor ["links", "x.com", "a", "b"]).perform app).2.desk.store.list "links" =
        .ok [.obj [("name", .str "a b"), ("url", .str "http://x.com")]] := by
  intro app editor
  have hmem : "x.com" ∉ RecordKind.links.actions := by decide
  obtain ⟨hadd, hplural⟩ := dispatchWith_shortcuts editor app
  refine ⟨hmem, ?_, by decide +kernel⟩
  exact (hplural .links ["x.com", "a", "b"]).trans
    (hadd .links (by decide) "x.com" hmem ["a", "b"])

end App

end Organizer
