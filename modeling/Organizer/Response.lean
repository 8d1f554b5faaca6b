import Organizer.Refusal

/-!
# Responses

What a command answers: blocks of text, each with a category that decides how it is presented. The
text of a block may carry markup; a block may also be a table of two columns, with the text as its
title. A block of the category `clear` says nothing and empties the screen.
-/

namespace Organizer

/-- What a response is about. -/
inductive Category
  | response
  | note
  | todo
  | link
  | calendar
  | help
  | error
  | clear
  deriving DecidableEq, Repr

/-- The word for a category. -/
def Category.name : Category → String
  | .response => "response"
  | .note => "note"
  | .todo => "todo"
  | .link => "link"
  | .calendar => "calendar"
  | .help => "help"
  | .error => "error"
  | .clear => "clear"

/-- One block of output. -/
structure Response where
  text : String
  category : Category := .response
  /-- Does the text carry markup? -/
  markup : Bool := false
  /-- The rows of a table, if the block is one. -/
  rows : Option (List (String × String)) := none
  /-- Does the text hold a lone half of a surrogate pair? It stands replaced in the text, but a
  terminal may refuse it. -/
  torn : Bool := false
  deriving DecidableEq, Repr

namespace Response

/-- A line that reports an error. -/
def ofMessage (message : String) : Response := ⟨"Error: " ++ message, .error, false, none, false⟩

/-- The line that reports a refusal. -/
def ofRefusal (reason : Refusal) : Response := ofMessage reason.message

/-- An answer of one plain block. -/
def reply (text : String) (category : Category := .response) (torn : Bool := false) :
    List Response :=
  [⟨text, category, false, none, torn⟩]

/-- An answer of one block whose text carries markup. -/
def replyMarkup (text : String) (category : Category) (torn : Bool := false) : List Response :=
  [⟨text, category, true, none, torn⟩]

end Response

end Organizer
