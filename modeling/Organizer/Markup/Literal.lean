import Organizer.Text.Digit

/-!
# Literals

A tag can name an action and hand it parameters, which are literals: numbers, texts, bytes, the
words `True`, `False` and `None`, three dots, and tuples, sets and mappings of literals. Markup only
has to know whether a text is a literal (`isLiteral`); what it stands for does not show.

A number may have a sign, and a real number and an imaginary one may be added; there is no other
arithmetic. The elements of a set and the keys of a mapping must not be sets or mappings themselves.

The parser takes a number of steps that `isLiteral` computes from the number of tokens: between two
tokens it descends at most four levels.
-/

namespace Organizer.Markup.Literal

open Text

/-- A token of a literal. -/
inductive Token
  | number (isImaginary : Bool)
  | text (isBytes : Bool)
  /-- A word or sign that is a value by itself. -/
  | constant
  /-- The word for the empty set, which is written like a call. -/
  | set
  | sign
  | comma
  | colon
  | opening
  | closing
  | openingBrace
  | closingBrace
  deriving DecidableEq, Repr

/-! ### Numbers -/

/-- Is the character a digit to a base? -/
def isDigitOf (base : Nat) (c : Char) : Bool :=
  if '0' ≤ c ∧ c ≤ '9' then c.toNat - '0'.toNat < base
  else if 'a' ≤ c.toLower ∧ c.toLower ≤ 'f' then c.toLower.toNat - 'a'.toNat + 10 < base
  else false

/-- How many characters digits at the front of a text take, with single low lines between them. -/
def digitsLength (base : Nat) : List Char → Nat
  | '_' :: c :: cs => if isDigitOf base c then 2 + digitsLength base cs else 0
  | c :: cs => if isDigitOf base c then 1 + digitsLength base cs else 0
  | [] => 0

/-- As `digitsLength`, but a low line must not come first. -/
def properLength (base : Nat) (cs : List Char) : Nat :=
  if cs.head? = some '_' then 0 else digitsLength base cs

/-- Can the character be part of a word? -/
def isWordChar (c : Char) : Bool :=
  c.isAlphanum || c == '_' || 0x80 ≤ c.toNat

/-- The base that a letter after a zero stands for. -/
def baseOf? (c : Char) : Option Nat :=
  match c.toLower with
  | 'x' => some 16
  | 'o' => some 8
  | 'b' => some 2
  | _ => none

/-- The longest whole number may have this many digits. -/
def maxDigits : Nat := 4300

/-- Can these digits be written as a whole number? A zero comes first only in zero itself. -/
def isWhole (digits : List Char) : Bool :=
  let ds := digits.filter (· != '_')
  ds.all (· == '0') || (ds.head? != some '0' && ds.length ≤ maxDigits)

/-- How many characters an exponent at the front of a text takes. -/
def exponentLength (cs : List Char) : Nat :=
  match cs with
  | e :: rest =>
    if e.toLower = 'e' then
      match rest with
      | s :: digits =>
        if s = '+' ∨ s = '-' then
          if properLength 10 digits = 0 then 0 else 2 + properLength 10 digits
        else if properLength 10 rest = 0 then 0 else 1 + properLength 10 rest
      | [] => 0
    else 0
  | [] => 0

/-- A number to another base, after its zero. -/
def based? (cs : List Char) : Option (Token × Nat) :=
  match cs with
  | '0' :: c :: rest =>
    match baseOf? c with
    | some base =>
      if digitsLength base rest = 0 then none
      else some (.number false, 2 + digitsLength base rest)
    | none => none
  | _ => none

/-- A decimal number. -/
def decimal? (cs : List Char) : Option (Token × Nat) :=
  let whole := properLength 10 cs
  let places :=
    match cs.drop whole with
    | '.' :: rest => if whole = 0 ∧ properLength 10 rest = 0 then 0 else 1 + properLength 10 rest
    | _ => 0
  if whole + places = 0 then none
  else
    let n := whole + places + exponentLength (cs.drop (whole + places))
    if (cs.drop n).head?.any (·.toLower == 'j') then some (.number true, n + 1)
    else if n = whole ∧ !isWhole (cs.take whole) then none
    else some (.number false, n)

/-- The number at the front of a text, which no word may touch. -/
def number? (cs : List Char) : Option (Token × Nat) := do
  let (t, n) ← (based? cs <|> decimal? cs)
  if (cs.drop n).head?.any isWordChar then none else return (t, n)

/-! ### Texts -/

/-- Are there so many hexadecimal digits at the front of a text? -/
def hasHex (count : Nat) (cs : List Char) : Bool :=
  let digits := (cs.take count).takeWhile (isDigitOf 16)
  digits.length == count

/-- The number that hexadecimal digits spell. -/
def hexNumber (cs : List Char) : Nat :=
  cs.foldl (fun n c ↦ 16 * n +
    if c ≤ '9' then c.toNat - '0'.toNat else c.toLower.toNat - 'a'.toNat + 10) 0

/-- Can a text go on like this after a backslash? -/
def isEscape (isBytes : Bool) (cs : List Char) : Bool :=
  match cs with
  | 'x' :: rest => hasHex 2 rest
  | 'u' :: rest => isBytes || hasHex 4 rest
  | 'U' :: rest => isBytes || (hasHex 8 rest && hexNumber (rest.take 8) < 0x110000)
  | 'N' :: _ => isBytes
  | _ => true

/-- How a text is written. -/
structure Quotation where
  mark : Char
  isTriple : Bool
  isRaw : Bool
  isBytes : Bool

/-- The length of a text up to its closing marks, after the opening ones. -/
def bodyLength? (q : Quotation) : List Char → Option Nat
  | [] => none
  | '\\' :: c :: cs =>
    if (q.isRaw || isEscape q.isBytes (c :: cs)) && !(q.isBytes && 0x80 ≤ c.toNat) then
      (bodyLength? q cs).map (2 + ·)
    else none
  | c :: cs =>
    if c = q.mark && !q.isTriple then some 1
    else if c = q.mark && [q.mark, q.mark].isPrefixOf cs then some 3
    else if (c = '\n' || c = '\r') && !q.isTriple then none
    else if q.isBytes && 0x80 ≤ c.toNat then none
    else (bodyLength? q cs).map (1 + ·)

/-- The letters in front of a text: is it raw, and is it made of bytes? -/
def letters? (letters : List Char) : Option (Bool × Bool) :=
  match letters.map Char.toLower with
  | [] | ['u'] => some (false, false)
  | ['r'] => some (true, false)
  | ['b'] => some (false, true)
  | ['b', 'r'] | ['r', 'b'] => some (true, true)
  | _ => none

/-- The text at the front of a text. -/
def text? (cs : List Char) : Option (Token × Nat) := do
  let letters := cs.takeWhile Char.isAlpha
  let (isRaw, isBytes) ← letters? letters
  match cs.drop letters.length with
  | mark :: rest =>
    if mark = '"' ∨ mark = '\x27' then
      let isTriple := [mark, mark].isPrefixOf rest
      let opening := if isTriple then 3 else 1
      let n ← bodyLength? ⟨mark, isTriple, isRaw, isBytes⟩ (rest.drop (opening - 1))
      return (.text isBytes, letters.length + opening + n)
    else none
  | [] => none

/-! ### Tokens -/

/-- The word at the front of a text. -/
def word? (cs : List Char) : Option (Token × Nat) :=
  let word := cs.takeWhile isWordChar
  if ["True", "False", "None"].contains (String.ofList word) then some (.constant, word.length)
  else if word = "set".toList then some (.set, word.length)
  else none

/-- A token of one sign, or the three dots. -/
def sign? (cs : List Char) : Option (Token × Nat) :=
  match cs with
  | '+' :: _ | '-' :: _ => some (.sign, 1)
  | ',' :: _ => some (.comma, 1)
  | ':' :: _ => some (.colon, 1)
  | '(' :: _ => some (.opening, 1)
  | ')' :: _ => some (.closing, 1)
  | '\x7b' :: _ => some (.openingBrace, 1)
  | '\x7d' :: _ => some (.closingBrace, 1)
  | '.' :: '.' :: '.' :: _ => some (.constant, 3)
  | _ => none

/-- The token at the front of a text. -/
def token? (cs : List Char) : Option (Token × Nat) :=
  number? cs <|> text? cs <|> word? cs <|> sign? cs

/-- How many brackets are open after a token. -/
def depthAfter (depth : Nat) : Token → Nat
  | .opening | .openingBrace => depth + 1
  | .closing | .closingBrace => depth - 1
  | _ => depth

/-- Can the character stand between tokens? A line break needs an open bracket. -/
def isGap (depth : Nat) (c : Char) : Bool :=
  c == ' ' || c == '\t' || c == '\x0c' || (depth != 0 && (c == '\n' || c == '\r'))

/-- The tokens of a text in which brackets are open. A hash begins a remark, which ends with the
line. -/
def tokensFrom? (depth : Nat) (cs : List Char) : Option (List Token) :=
  match cs with
  | [] => some []
  | c :: rest =>
    if isGap depth c then tokensFrom? depth rest
    else if c = '#' then
      let remark := (rest.takeWhile fun d ↦ d != '\n' && d != '\r').length
      tokensFrom? depth (rest.drop remark)
    else
      match token? (c :: rest) with
      | none => none
      | some (t, n) => (tokensFrom? (depthAfter depth t) (rest.drop (n - 1))).map (t :: ·)
termination_by cs.length
decreasing_by
  · simp
  · simp only [List.length_cons, List.length_drop]; omega
  · simp only [List.length_cons, List.length_drop]; omega

/-! ### Grammar -/

/-- What matters of a literal for what it can be part of. -/
inductive Kind
  | number (isImaginary : Bool)
  | signedNumber (isImaginary : Bool)
  /-- Any other literal that can be an element of a set. -/
  | simple
  /-- A set or a mapping. -/
  | collection
  deriving DecidableEq, Repr

/-- Can it be an element of a set? -/
def Kind.isElement : Kind → Bool
  | .collection => false
  | _ => true

/-- The sum of two literals: a real number and an imaginary one. -/
def Kind.sum? : Kind → Kind → Option Kind
  | .number false, .number true | .signedNumber false, .number true => some .simple
  | _, _ => none

/-- A tuple of literals. -/
def Kind.tuple (parts : List Kind) : Kind :=
  if parts.all isElement then .simple else .collection

/-- Passes over texts that follow a text, which are joined to it. -/
def skipTexts? (isBytes : Bool) : List Token → Option (List Token)
  | .text b :: ts => if b = isBytes then skipTexts? isBytes ts else none
  | ts => some ts

mutual

/-- Parses a literal. -/
def parse? : Nat → List Token → Option (Kind × List Token)
  | 0, _ => none
  | fuel + 1, ts => do
    let (left, ts) ← parseSigned? fuel ts
    match ts with
    | .sign :: ts =>
      let (right, ts) ← parseSigned? fuel ts
      return (← left.sum? right, ts)
    | ts => return (left, ts)

/-- Parses a literal without a sum, perhaps with a sign. -/
def parseSigned? : Nat → List Token → Option (Kind × List Token)
  | 0, _ => none
  | fuel + 1, ts =>
    match ts with
    | .sign :: ts => do
      match ← parseSigned? fuel ts with
      | (.number i, ts) => return (.signedNumber i, ts)
      | _ => none
    | ts => parseAtom? fuel ts

/-- Parses a literal that is a single token or stands in brackets. -/
def parseAtom? : Nat → List Token → Option (Kind × List Token)
  | 0, _ => none
  | fuel + 1, ts =>
    match ts with
    | .number i :: ts => some (.number i, ts)
    | .text b :: ts => (skipTexts? b ts).map fun ts ↦ (.simple, ts)
    | .constant :: ts => some (.simple, ts)
    | .set :: .opening :: .closing :: ts => some (.collection, ts)
    | .opening :: .closing :: ts => some (.simple, ts)
    | .opening :: ts => do
      let (first, ts) ← parse? fuel ts
      match ts with
      | .closing :: ts => return (first, ts)
      | ts =>
        let (parts, ts) ← parseMore? fuel ts
        match ts with
        | .closing :: ts => return (.tuple (first :: parts), ts)
        | _ => none
    | .openingBrace :: .closingBrace :: ts => some (.collection, ts)
    | .openingBrace :: ts => do
      let (first, ts) ← parse? fuel ts
      if !first.isElement then none
      else
        match ts with
        | .colon :: ts =>
          let (_, ts) ← parse? fuel ts
          parsePairs? fuel ts
        | ts =>
          let (parts, ts) ← parseMore? fuel ts
          match ts with
          | .closingBrace :: ts =>
            if parts.all Kind.isElement then return (.collection, ts) else none
          | _ => none
    | _ => none

/-- Parses further parts, each after a comma; a comma may stand at the end. -/
def parseMore? : Nat → List Token → Option (List Kind × List Token)
  | 0, _ => none
  | fuel + 1, ts =>
    match ts with
    | [.comma] => some ([], [])
    | .comma :: .closing :: ts => some ([], .closing :: ts)
    | .comma :: .closingBrace :: ts => some ([], .closingBrace :: ts)
    | .comma :: ts => do
      let (part, ts) ← parse? fuel ts
      let (parts, ts) ← parseMore? fuel ts
      return (part :: parts, ts)
    | ts => some ([], ts)

/-- Parses further pairs of a mapping and the brace at its end. -/
def parsePairs? : Nat → List Token → Option (Kind × List Token)
  | 0, _ => none
  | fuel + 1, ts =>
    match ts with
    | .closingBrace :: ts | .comma :: .closingBrace :: ts => some (.collection, ts)
    | .comma :: ts => do
      let (key, ts) ← parse? fuel ts
      match ts with
      | .colon :: ts =>
        let (_, ts) ← parse? fuel ts
        if key.isElement then parsePairs? fuel ts else none
      | _ => none
    | _ => none

end

/-- Is the text a literal, or several with commas between them? There is no null character in it. -/
def isLiteral (cs : List Char) : Bool :=
  match if cs.contains '\x00' then none else tokensFrom? 0 cs with
  | none => false
  | some ts =>
    let fuel := 4 * ts.length + 4
    match (parse? fuel ts).bind fun p ↦ parseMore? fuel p.2 with
    | some (_, []) => true
    | _ => false

end Organizer.Markup.Literal
