import Organizer.Action

/-!
# Paths

A path is a root, if it has one, and the parts between its slashes. Empty parts and single dots are
dropped; double dots stay, since what they mean depends on the files. Two slashes at the front, and
exactly two, are a root of their own.
-/

namespace Organizer

/-- Where a path starts. -/
inductive PathRoot
  /-- At a directory that the path does not name. -/
  | relative
  | slash
  | doubleSlash
  deriving DecidableEq, Repr

/-- A path in its normal form. -/
structure Path where
  root : PathRoot
  parts : List String
  deriving DecidableEq, Repr

namespace Path

/-- Splits a text at slashes. -/
def splitSlashes : List Char → List (List Char)
  | [] => [[]]
  | c :: cs =>
    if c = '/' then [] :: splitSlashes cs
    else
      match splitSlashes cs with
      | w :: ws => (c :: w) :: ws
      | [] => [[c]]

/-- The root that the front of a text spells. -/
def rootOf : List Char → PathRoot
  | '/' :: '/' :: '/' :: _ => .slash
  | '/' :: '/' :: _ => .doubleSlash
  | '/' :: _ => .slash
  | _ => .relative

/-- The path that a text spells; every text spells one. -/
def ofText (s : String) : Path where
  root := rootOf s.toList
  parts := (splitSlashes s.toList).filterMap fun w ↦
    if w = [] ∨ w = ['.'] then none else some (String.ofList w)

/-- The text of a root. -/
def PathRoot.text : PathRoot → String
  | .relative => ""
  | .slash => "/"
  | .doubleSlash => "//"

/-- The text of a path. The path that leads nowhere else is a single dot. -/
def text (p : Path) : String :=
  if p.root = .relative ∧ p.parts = [] then "."
  else PathRoot.text p.root ++ "/".intercalate p.parts

/-- The last part of a path; empty if there is none. -/
def name (p : Path) : String := p.parts.getLast?.getD ""

/-- Does the path start at a root? -/
def isAbsolute (p : Path) : Bool := p.root != .relative

/-- A path as seen from a base: an absolute one stays as it is. -/
def join (base p : Path) : Path := if p.isAbsolute then p else ⟨base.root, base.parts ++ p.parts⟩

/-- A path with one part more. -/
def child (p : Path) (part : String) : Path := ⟨p.root, p.parts ++ [part]⟩

/-- Puts the home directory in the place of a leading tilde. A tilde with the name of a person leads
to that person's home where the system knows one; no such homes are known here, so that every such
path is an unexpected failure. -/
def expandHome (home p : Path) : Except Failure Path :=
  match p.root, p.parts with
  | .relative, first :: rest =>
    if first = "~" then .ok ⟨home.root, home.parts ++ rest⟩
    else if first.toList.head? = some '~' then .error .unexpected
    else .ok p
  | _, _ => .ok p

/-- The path that a person meant: what was typed, or else a default, as seen from a base. -/
def resolve (home base : Path) (typed : Option String) (default : String) :
    Except Failure Path :=
  match typed with
  | some s => if s.isEmpty then .ok (base.join (ofText default))
    else (expandHome home (ofText s)).map base.join
  | none => .ok (base.join (ofText default))

/-- Does the text hold the null character, which no file name can? -/
def holdsNull (s : String) : Bool := s.toList.contains '\x00'

end Path

end Organizer
