import Organizer.Json.Printer
import Organizer.Text.Printable

/-!
# Showing a value inside a message

A text is shown as it is. Everything else is shown in a compact form of its own: `None`, `True` and
`False`, lists in brackets and objects in braces, and a text inside one of them between single
quotes, or between double quotes if it holds a single quote and no double one.

Not every value can be shown (`display?`): a whole number of too many digits is not turned into
text, wherever it stands, and a value may be nested too deep.
-/

namespace Organizer.Json

open Number Text

/-- A hexadecimal number of a fixed number of digits. -/
def hexDigits (places n : Nat) : List Char :=
  (List.range places).reverse.map fun i ↦ hexDigit (n / Nat.pow 16 i)

/-- A character inside a quoted text. -/
def quoteChar (quote c : Char) : List Char :=
  if c = quote ∨ c = '\\' then ['\\', c]
  else if c = '\n' then ['\\', 'n']
  else if c = '\r' then ['\\', 'r']
  else if c = '\t' then ['\\', 't']
  else if isPrintable c then [c]
  else if c.toNat < 0x100 then '\\' :: 'x' :: hexDigits 2 c.toNat
  else if c.toNat < 0x10000 then '\\' :: 'u' :: hexDigits 4 c.toNat
  else '\\' :: 'U' :: hexDigits 8 c.toNat

/-- A code point inside a quoted text. -/
def quotePoint (quote : Char) : CodePoint → List Char
  | .char c => quoteChar quote c
  | .half n => '\\' :: 'u' :: hexDigits 4 (CodePoint.half n).toNat

/-- A text between quotes. -/
def quoteText (ps : List CodePoint) : List Char :=
  let quote := if ps.contains (.char '\x27') && !ps.contains (.char '"') then '"' else '\x27'
  quote :: ps.flatMap (quotePoint quote) ++ [quote]

/-- A scalar inside another value. -/
def displayScalar : Scalar → List Char
  | .null => "None".toList
  | .bool true => "True".toList
  | .bool false => "False".toList
  | .int n => writeInt n
  | .double x => (showDouble x).toList
  | .text s => quoteText (s.toList.map .char)
  | .torn ps => quoteText ps

mutual

/-- A value inside another one. -/
def displayInner : Json → List Char
  | .scalar x => displayScalar x
  | .arr [] => ['[', ']']
  | .arr (x :: xs) => '[' :: displayInner x ++ displayItems xs ++ [']']
  | .obj [] => ['\x7b', '\x7d']
  | .obj ((k, x) :: fs) =>
    '\x7b' :: displayScalar k ++ ':' :: ' ' :: displayInner x ++ displayFields fs ++ ['\x7d']
termination_by structural v => v

/-- Further items. -/
def displayItems : List Json → List Char
  | [] => []
  | x :: xs => ',' :: ' ' :: displayInner x ++ displayItems xs
termination_by structural xs => xs

/-- Further fields. -/
def displayFields : List (Scalar × Json) → List Char
  | [] => []
  | (k, x) :: fs =>
    ',' :: ' ' :: displayScalar k ++ ':' :: ' ' :: displayInner x ++ displayFields fs
termination_by structural fs => fs

end

/-- A value as a message shows it. -/
def display : Json → String
  | .str s => s
  | .scalar (.torn ps) => String.ofList (ps.map CodePoint.shown)
  | v => String.ofList (displayInner v)

/-- The most levels of a value that can be shown. -/
def maxShown : Nat := 985

/-- Can the value be turned into text? -/
def isShowable (v : Json) : Bool := v.allScalars Scalar.isShowable && v.depth ≤ maxShown

/-- A value as a message shows it, if it can be shown. -/
def display? (v : Json) : Option String := if v.isShowable then some v.display else none

@[simp] theorem display_str (s : String) : display (.str s) = s := rfl

/-- A text can always be shown. -/
theorem isShowable_of_isText {v : Json} (h : v.isText = true) : v.isShowable = true := by
  cases v with
  | scalar x => cases x <;> first | rfl | cases h
  | arr | obj => cases h

end Organizer.Json
