import Organizer.Json.Basic

/-!
# Writing JSON

The one written form of a value, used for the store and for every saved file: items and fields
stand on lines of their own, indented by two spaces a level, an empty list or object stays on one
line, and there is no newline at the end. Inside a text only the quote, the backslash and the
control characters below the space are escaped; all other characters stand for themselves.

A double is written with the fewest digits that read back, and the values that have no digits as
the words `Infinity`, `-Infinity` and `NaN`.

Each function is given the text that comes after the one it writes. So writing takes time in the
length of the text however deep the nesting is, and a reader can be followed from the first
character on.
-/

namespace Organizer.Json

open Number Text

/-- A hexadecimal digit in lower case. -/
def hexDigit (n : Nat) : Char := Nat.digitChar (n % 16)

/-- A character as it stands inside a text. -/
def escapeChar (c : Char) : List Char :=
  if c = '"' then ['\\', '"']
  else if c = '\\' then ['\\', '\\']
  else if c = '\n' then ['\\', 'n']
  else if c = '\r' then ['\\', 'r']
  else if c = '\t' then ['\\', 't']
  else if c = '\x08' then ['\\', 'b']
  else if c = '\x0c' then ['\\', 'f']
  else if c.toNat < 0x20 then ['\\', 'u', '0', '0', hexDigit (c.toNat / 16), hexDigit c.toNat]
  else [c]

/-- A text between quotes. -/
def writeText (s : String) : List Char := '"' :: s.toList.flatMap escapeChar ++ ['"']

/-- Doubles in files: the same digits as elsewhere, with other words. -/
def doubleLayout : Layout := { fullLayout with infinite := "Infinity", undefined := "NaN" }

/-- A double. -/
def writeDouble (x : Float) : List Char := writeDoubleWith doubleLayout shortest x

/-- A scalar. The lone halves of a torn text are replaced; such a text is never sent to a file. -/
def writeScalar : Scalar → List Char
  | .null => ['n', 'u', 'l', 'l']
  | .bool true => ['t', 'r', 'u', 'e']
  | .bool false => ['f', 'a', 'l', 's', 'e']
  | .int n => writeInt n
  | .double x => writeDouble x
  | .text s => writeText s
  | .torn ps => writeText (String.ofList (ps.map CodePoint.shown))

/-- The name of a field: a name that is not a text is written between quotes. -/
def writeName (key : Scalar) : List Char :=
  if key.isText then writeScalar key else '"' :: writeScalar key ++ ['"']

/-- A line break with the indentation of a level. -/
def lineBreak (level : Nat) : List Char := '\n' :: List.replicate (2 * level) ' '

mutual

/-- The text of a value whose first line is already indented to `level`, with more text after it. -/
def writeAt (level : Nat) (after : List Char) : Json → List Char
  | .scalar x => writeScalar x ++ after
  | .arr [] => '[' :: ']' :: after
  | .arr (x :: xs) =>
    '[' :: lineBreak (level + 1) ++
      writeAt (level + 1) (writeItems (level + 1) (lineBreak level ++ ']' :: after) xs) x
  | .obj [] => '\x7b' :: '\x7d' :: after
  | .obj ((k, x) :: fs) =>
    '\x7b' :: lineBreak (level + 1) ++ writeName k ++ ':' :: ' ' ::
      writeAt (level + 1) (writeFields (level + 1) (lineBreak level ++ '\x7d' :: after) fs) x
termination_by structural v => v

/-- Further items, each after a comma and a line break. -/
def writeItems (level : Nat) (after : List Char) : List Json → List Char
  | [] => after
  | x :: xs => ',' :: lineBreak level ++ writeAt level (writeItems level after xs) x
termination_by structural xs => xs

/-- Further fields, each after a comma and a line break. -/
def writeFields (level : Nat) (after : List Char) : List (Scalar × Json) → List Char
  | [] => after
  | (k, x) :: fs =>
    ',' :: lineBreak level ++ writeName k ++ ':' :: ' ' ::
      writeAt level (writeFields level after fs) x
termination_by structural fs => fs

end

mutual

/-- What comes after a value does not matter for how it is written. -/
theorem writeAt_append (level : Nat) (a b : List Char) :
    ∀ v : Json, writeAt level (a ++ b) v = writeAt level a v ++ b
  | .scalar x => by simp [writeAt]
  | .arr [] => by simp [writeAt]
  | .arr (x :: xs) => by
    simp only [writeAt, List.append_assoc, List.cons_append]
    rw [← writeAt_append (level + 1) _ b x, ← writeItems_append (level + 1) _ b xs]
    simp
  | .obj [] => by simp [writeAt]
  | .obj ((k, x) :: fs) => by
    simp only [writeAt, List.append_assoc, List.cons_append]
    rw [← writeAt_append (level + 1) _ b x, ← writeFields_append (level + 1) _ b fs]
    simp

theorem writeItems_append (level : Nat) (a b : List Char) :
    ∀ xs : List Json, writeItems level (a ++ b) xs = writeItems level a xs ++ b
  | [] => rfl
  | x :: xs => by
    simp only [writeItems, List.append_assoc, List.cons_append]
    rw [← writeAt_append level _ b x, ← writeItems_append level a b xs]

theorem writeFields_append (level : Nat) (a b : List Char) :
    ∀ fs : List (Scalar × Json), writeFields level (a ++ b) fs = writeFields level a fs ++ b
  | [] => rfl
  | (k, x) :: fs => by
    simp only [writeFields, List.append_assoc, List.cons_append]
    rw [← writeAt_append level _ b x, ← writeFields_append level a b fs]

end

/-- The written form of a value. -/
def write (v : Json) : String := String.ofList (writeAt 0 [] v)

/-- The most levels of nesting that can be written. -/
def maxWritten : Nat := 985

/-- Can the value be written to a file? -/
def isWritable (v : Json) : Bool := v.allScalars Scalar.isWritable && v.depth ≤ maxWritten

end Organizer.Json
