import Organizer.Json.Basic

/-!
# Reading JSON

The reader accepts any layout and any escapes, and beyond the standard the words `NaN`, `Infinity`
and `-Infinity`. An escape for half a surrogate pair is kept as a lone half. The reader refuses a
leading byte order mark, anything after the value but blanks, raw control characters inside a text,
and whole numbers of more than 4300 digits. Of two fields with one name the first keeps its place
and the last its value.

Nesting is limited by `room`, and the limit is met where the text goes too deep, whatever follows.
The recursion itself is bounded by a number of steps that `readChars` computes from the length of
the text: each level of nesting costs at most two steps and at least one character.
-/

namespace Organizer.Json

open Number Text

/-- The blanks between tokens. -/
def isGap (c : Char) : Bool := c == ' ' || c == '\t' || c == '\n' || c == '\r'

/-- Skips blanks. -/
def skipGap (cs : List Char) : List Char := cs.dropWhile isGap

/-! ### Texts -/

/-- The value of a hexadecimal digit in either case. -/
def hexValue? (c : Char) : Option Nat :=
  if '0' ≤ c ∧ c ≤ '9' then some (c.toNat - '0'.toNat)
  else if 'a' ≤ c ∧ c ≤ 'f' then some (c.toNat - 'a'.toNat + 10)
  else if 'A' ≤ c ∧ c ≤ 'F' then some (c.toNat - 'A'.toNat + 10)
  else none

/-- The number that four hexadecimal digits at the front of a text spell. -/
def hexQuad? : List Char → Option Nat
  | a :: b :: c :: d :: _ => do
    let a ← hexValue? a
    let b ← hexValue? b
    let c ← hexValue? c
    let d ← hexValue? d
    return ((a * 16 + b) * 16 + c) * 16 + d
  | _ => none

/-- The escapes of one letter. -/
def shortEscape? (c : Char) : Option Char :=
  if c = '"' ∨ c = '\\' ∨ c = '/' then some c
  else if c = 'n' then some '\n'
  else if c = 'r' then some '\r'
  else if c = 't' then some '\t'
  else if c = 'b' then some '\x08'
  else if c = 'f' then some '\x0c'
  else none

/-- The half of a surrogate pair that an escape at the front of a text spells, if it is a second
half. -/
def secondHalf? : List Char → Option Nat
  | '\\' :: 'u' :: cs => (hexQuad? cs).filter fun n ↦ 0xDC00 ≤ n && n < 0xE000
  | _ => none

/-- The code point of a number below 2^16. -/
def pointOf (n : Nat) : CodePoint :=
  if h : n - 0xD800 < 2048 ∧ 0xD800 ≤ n then .half ⟨n - 0xD800, h.1⟩ else .char (Char.ofNat n)

/-- What follows a backslash: the code point meant, and how many characters spell it. Two escapes in
a row can be the halves of one character; a half without the other stands alone. -/
def readEscape? : List Char → Option (CodePoint × Nat)
  | [] => none
  | c :: cs =>
    if c = 'u' then do
      let n ← hexQuad? cs
      match if 0xD800 ≤ n && n < 0xDC00 then secondHalf? (cs.drop 4) else none with
      | some m => return (.char (Char.ofNat (0x10000 + (n - 0xD800) * 0x400 + (m - 0xDC00))), 11)
      | none => return (pointOf n, 5)
    else (shortEscape? c).map fun d ↦ (.char d, 1)

/-- Reads a text up to its closing quote, after the opening one. -/
def readText? : List Char → Option (List CodePoint × List Char)
  | [] => none
  | c :: cs =>
    if c = '"' then some ([], cs)
    else if c = '\\' then
      match readEscape? cs with
      | some (p, n) => (readText? (cs.drop n)).map fun (ps, rest) ↦ (p :: ps, rest)
      | none => none
    else if c.toNat < 0x20 then none
    else (readText? cs).map fun (ps, rest) ↦ (.char c :: ps, rest)
termination_by cs => cs.length
decreasing_by
  · simp only [List.length_cons, List.length_drop]; omega
  · simp

/-! ### Numbers -/

/-- The leading ASCII digits of a text, as values, and what follows them. -/
def takeAsciiDigits : List Char → List Nat × List Char
  | [] => ([], [])
  | c :: cs =>
    match asciiDigit? c with
    | some d => let (ds, rest) := takeAsciiDigits cs; (d :: ds, rest)
    | none => ([], c :: cs)

/-- The whole part of a number: a zero on its own, or digits that do not begin with zero. -/
def takeWhole? : List Char → Option (List Nat × List Char)
  | '0' :: cs => some ([0], cs)
  | cs =>
    match takeAsciiDigits cs with
    | ([], _) => none
    | p => some p

/-- The places after a point; without a digit after it, the point is not taken. -/
def takePlaces (cs : List Char) : List Nat × List Char :=
  match cs with
  | '.' :: rest =>
    match takeAsciiDigits rest with
    | ([], _) => ([], cs)
    | p => p
  | _ => ([], cs)

/-- An exponent; without a digit in it, nothing is taken. -/
def takeExponent (cs : List Char) : Option Int × List Char :=
  match cs with
  | c :: rest =>
    if c = 'e' ∨ c = 'E' then
      let (negative, rest) :=
        match rest with
        | '-' :: rest => (true, rest)
        | '+' :: rest => (false, rest)
        | _ => (false, rest)
      match takeAsciiDigits rest with
      | ([], _) => (none, cs)
      | (ds, rest) =>
        let n : Int := ofDigits ds
        (some (if negative then -n else n), rest)
    else (none, cs)
  | [] => (none, [])

/-- Reads a number after its sign. -/
def readUnsigned? (negative : Bool) (cs : List Char) : Option (Scalar × List Char) := do
  let (whole, rest) ← takeWhole? cs
  let (places, rest) := takePlaces rest
  let (exponent, rest) := takeExponent rest
  if places.isEmpty && exponent.isNone then
    if maxDigits < whole.length then none
    else
      let n : Int := ofDigits whole
      return (.int (if negative then -n else n), rest)
  else
    return (.double (Double.ofDecimal negative (ofDigits (whole ++ places))
      (exponent.getD 0 - places.length)), rest)

/-- Takes a word off the front of a text. -/
def takeWord? (word : String) (cs : List Char) : Option (List Char) :=
  if word.toList.isPrefixOf cs then some (cs.drop word.toList.length) else none

/-- Reads a value that is neither a text, a list nor an object. -/
def readAtom? (cs : List Char) : Option (Scalar × List Char) :=
  match takeWord? "null" cs with
  | some rest => some (.null, rest)
  | none =>
  match takeWord? "true" cs with
  | some rest => some (.bool true, rest)
  | none =>
  match takeWord? "false" cs with
  | some rest => some (.bool false, rest)
  | none =>
  match takeWord? "NaN" cs with
  | some rest => some (.double Double.notANumber, rest)
  | none =>
  match takeWord? "Infinity" cs with
  | some rest => some (.double (Double.infinity false), rest)
  | none =>
  match takeWord? "-Infinity" cs with
  | some rest => some (.double (Double.infinity true), rest)
  | none =>
  match cs with
  | '-' :: rest => readUnsigned? true rest
  | _ => readUnsigned? false cs

/-! ### Values -/

/-- Why a text cannot be read. -/
inductive Fault
  /-- The text holds no value, or something besides it. -/
  | malformed
  /-- Lists and objects are nested too deep. -/
  | tooDeep
  deriving DecidableEq, Repr

/-- Takes the value of an option, or finds the text malformed. -/
def orMalformed {α : Type} : Option α → Except Fault α
  | some a => .ok a
  | none => .error .malformed

mutual

/-- Reads a value off the front of a text that does not begin with a blank. Lists and objects in it
can be nested `room` deep. -/
def readValue : Nat → Nat → List Char → Except Fault (Json × List Char)
  | 0, _, _ => .error .malformed
  | steps + 1, room, cs =>
    match cs with
    | '"' :: rest => do
      let (ps, rest) ← orMalformed (readText? rest)
      return (.scalar (.ofPoints ps), rest)
    | '[' :: rest => do
      if room = 0 then throw .tooDeep
      match skipGap rest with
      | ']' :: rest => return (.arr [], rest)
      | rest =>
        let (xs, rest) ← readItems steps (room - 1) rest
        return (.arr xs, rest)
    | '\x7b' :: rest => do
      if room = 0 then throw .tooDeep
      match skipGap rest with
      | '\x7d' :: rest => return (.obj [], rest)
      | rest =>
        let (fs, rest) ← readFields steps (room - 1) rest
        return (.obj (Fields.ofList fs), rest)
    | _ => do
      let (x, rest) ← orMalformed (readAtom? cs)
      return (.scalar x, rest)

/-- Reads items up to the bracket that closes the list. -/
def readItems : Nat → Nat → List Char → Except Fault (List Json × List Char)
  | 0, _, _ => .error .malformed
  | steps + 1, room, cs => do
    let (x, rest) ← readValue steps room cs
    match skipGap rest with
    | ']' :: rest => return ([x], rest)
    | ',' :: rest =>
      let (xs, rest) ← readItems steps room (skipGap rest)
      return (x :: xs, rest)
    | _ => throw .malformed

/-- Reads fields up to the brace that closes the object. -/
def readFields : Nat → Nat → List Char → Except Fault (List (Scalar × Json) × List Char)
  | 0, _, _ => .error .malformed
  | steps + 1, room, cs =>
    match cs with
    | '"' :: rest => do
      let (ps, rest) ← orMalformed (readText? rest)
      match skipGap rest with
      | ':' :: rest =>
        let (x, rest) ← readValue steps room (skipGap rest)
        match skipGap rest with
        | '\x7d' :: rest => return ([(.ofPoints ps, x)], rest)
        | ',' :: rest =>
          let (fs, rest) ← readFields steps room (skipGap rest)
          return ((.ofPoints ps, x) :: fs, rest)
        | _ => throw .malformed
      | _ => throw .malformed
    | _ => .error .malformed

end

/-- Reads a text that holds one value and blanks around it. -/
def readChars (room : Nat) (cs : List Char) : Except Fault Json := do
  let (v, rest) ← readValue (2 * cs.length + 2) room (skipGap cs)
  if (skipGap rest).isEmpty then return v else throw .malformed

/-- The most levels of nesting that are read. -/
def maxRead : Nat := 990

/-- Reads a value from a text. -/
def read (s : String) : Except Fault Json := readChars maxRead s.toList

/-- Reads a value from the bytes of a file, which have to be UTF-8. -/
def ofBytes (bytes : ByteArray) : Except Fault Json := do
  read (← orMalformed (String.fromUTF8? bytes))

end Organizer.Json
