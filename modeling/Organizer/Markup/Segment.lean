/-!
# Markup: tags and escapes

A tag is an opening bracket, one of the characters `a` to `z`, `#`, `/` and `@`, and anything up to
the first closing bracket, provided that no other opening bracket comes first. Backslashes in front
of a tag belong to it: two of them stand for one, and one that is left over turns the tag into
literal text. A bracket that opens no tag is literal.

`scan` divides a text into tags and single characters. Both `escape`, which protects a text so that
it contains no active tag, and the reading of markup are defined on what `scan` finds.
-/

namespace Organizer.Markup

/-- A piece of a text with markup. -/
inductive Segment
  | char (c : Char)
  /-- A tag with the number of backslashes in front of it. -/
  | tag (slashes : Nat) (body : List Char)
  deriving DecidableEq, Repr

/-- Can the character be the first of a tag? -/
def isTagStart (c : Char) : Bool :=
  ('a' ≤ c && c ≤ 'z') || c == '#' || c == '/' || c == '@'

/-- The body of the tag at the front of a text. -/
def tagBody? (cs : List Char) : Option (List Char) :=
  match cs with
  | '[' :: c :: rest =>
    if isTagStart c then
      let inside := rest.takeWhile fun d ↦ d != '[' && d != ']'
      match rest.drop inside.length with
      | ']' :: _ => some (c :: inside)
      | _ => none
    else none
  | _ => none

/-- The number of backslashes at the front of a text. -/
def leadingSlashes (cs : List Char) : Nat := (cs.takeWhile (· == '\\')).length

/-- The pieces of a text. -/
def scan (cs : List Char) : List Segment :=
  match cs with
  | [] => []
  | c :: rest =>
    let slashes := leadingSlashes (c :: rest)
    match tagBody? ((c :: rest).drop slashes) with
    | some body => .tag slashes body :: scan (rest.drop (slashes + body.length + 1))
    | none => .char c :: scan rest
termination_by cs.length
decreasing_by
  · simp only [List.length_cons, List.length_drop]; omega
  · simp

/-- A tag as it stands in a text, without backslashes. -/
def bracketed (body : List Char) : List Char := '[' :: body ++ [']']

/-- A piece of a protected text: a tag gets twice its backslashes and one more. -/
def Segment.escaped : Segment → List Char
  | .char c => [c]
  | .tag slashes body => List.replicate (2 * slashes + 1) '\\' ++ bracketed body

/-- Does a text end in a single backslash? -/
def endsInSingleSlash (cs : List Char) : Bool := leadingSlashes cs.reverse == 1

/-- Protects a text: in it, no tag is active. A single backslash at its end is doubled, since it
would otherwise act on a tag that follows. -/
def escape (cs : List Char) : List Char :=
  let protectedText := (scan cs).flatMap Segment.escaped
  if endsInSingleSlash protectedText then protectedText ++ ['\\'] else protectedText

end Organizer.Markup
