import Organizer.Arithmetic.Token

/-!
# Arithmetic expressions and their grammar

    sum     = product { ('+' | '-') product }
    product = unary { ('*' | '/' | '//' | '%') unary }
    unary   = ('+' | '-') unary | power
    power   = primary [ '**' unary ]
    primary = atom { '(' [ '*' | '**' ] [ sum ] ')' }
    atom    = number | '(' sum ')' | '(' ')' | '...'

Sums and products group to the left. A power groups to the right and binds tighter than a sign on
its left. The grammar admits some forms that have no value: applying one expression to another,
empty parentheses, three dots. They become `Expr.meaningless`, so that a fault elsewhere in the
expression is still found first; whole division is such a form too, but its operands stay visible.

The parser takes a number of steps that `ofTokens?` computes from the number of tokens: between two
tokens it descends at most eight levels.
-/

namespace Organizer.Arithmetic

/-- An operator between two operands. -/
inductive Op
  | add
  | sub
  | mul
  | div
  | mod
  | pow
  | wholeDiv
  deriving DecidableEq, Repr

/-- An arithmetic expression. -/
inductive Expr
  | whole (n : Nat)
  | double (x : Float)
  | positive (e : Expr)
  | negative (e : Expr)
  | binary (op : Op) (left right : Expr)
  | meaningless

namespace Expr

mutual

/-- Parses a sum. -/
def parseSum : Nat → List Token → Option (Expr × List Token)
  | 0, _ => none
  | fuel + 1, ts => do
    let (left, ts) ← parseProduct fuel ts
    parseSumTail fuel left ts

/-- Parses the rest of a sum whose left part is known. -/
def parseSumTail : Nat → Expr → List Token → Option (Expr × List Token)
  | 0, _, _ => none
  | fuel + 1, left, ts =>
    match ts with
    | .plus :: ts => do
      let (right, ts) ← parseProduct fuel ts
      parseSumTail fuel (.binary .add left right) ts
    | .minus :: ts => do
      let (right, ts) ← parseProduct fuel ts
      parseSumTail fuel (.binary .sub left right) ts
    | ts => some (left, ts)

/-- Parses a product. -/
def parseProduct : Nat → List Token → Option (Expr × List Token)
  | 0, _ => none
  | fuel + 1, ts => do
    let (left, ts) ← parseUnary fuel ts
    parseProductTail fuel left ts

/-- Parses the rest of a product whose left part is known. -/
def parseProductTail : Nat → Expr → List Token → Option (Expr × List Token)
  | 0, _, _ => none
  | fuel + 1, left, ts =>
    match ts with
    | .star :: ts => do
      let (right, ts) ← parseUnary fuel ts
      parseProductTail fuel (.binary .mul left right) ts
    | .slash :: ts => do
      let (right, ts) ← parseUnary fuel ts
      parseProductTail fuel (.binary .div left right) ts
    | .doubleSlash :: ts => do
      let (right, ts) ← parseUnary fuel ts
      parseProductTail fuel (.binary .wholeDiv left right) ts
    | .percent :: ts => do
      let (right, ts) ← parseUnary fuel ts
      parseProductTail fuel (.binary .mod left right) ts
    | ts => some (left, ts)

/-- Parses an operand with its signs. -/
def parseUnary : Nat → List Token → Option (Expr × List Token)
  | 0, _ => none
  | fuel + 1, ts =>
    match ts with
    | .plus :: ts => (parseUnary fuel ts).map fun p ↦ (.positive p.1, p.2)
    | .minus :: ts => (parseUnary fuel ts).map fun p ↦ (.negative p.1, p.2)
    | ts => parsePower fuel ts

/-- Parses a power. -/
def parsePower : Nat → List Token → Option (Expr × List Token)
  | 0, _ => none
  | fuel + 1, ts => do
    let (base, ts) ← parsePrimary fuel ts
    match ts with
    | .power :: ts =>
      let (exponent, ts) ← parseUnary fuel ts
      return (.binary .pow base exponent, ts)
    | ts => return (base, ts)

/-- Parses an atom and what it is applied to. -/
def parsePrimary : Nat → List Token → Option (Expr × List Token)
  | 0, _ => none
  | fuel + 1, ts => do
    let (atom, ts) ← parseAtom fuel ts
    parseApplications fuel atom ts

/-- Parses the parentheses that follow an atom. An application has no value. -/
def parseApplications : Nat → Expr → List Token → Option (Expr × List Token)
  | 0, _, _ => none
  | fuel + 1, atom, ts =>
    match ts with
    | .opening :: .closing :: ts => parseApplications fuel .meaningless ts
    | .opening :: .star :: ts => parseApplied fuel ts
    | .opening :: .power :: ts => parseApplied fuel ts
    | .opening :: ts => parseApplied fuel ts
    | ts => some (atom, ts)

/-- Parses the operand of an application, its closing parenthesis, and further applications. -/
def parseApplied : Nat → List Token → Option (Expr × List Token)
  | 0, _ => none
  | fuel + 1, ts => do
    let (_, ts) ← parseSum fuel ts
    match ts with
    | .closing :: ts => parseApplications fuel .meaningless ts
    | _ => none

/-- Parses a number, a parenthesised expression, or one of the forms without a value. -/
def parseAtom : Nat → List Token → Option (Expr × List Token)
  | 0, _ => none
  | fuel + 1, ts =>
    match ts with
    | .whole n :: ts => some (.whole n, ts)
    | .double x :: ts => some (.double x, ts)
    | .ellipsis :: ts => some (.meaningless, ts)
    | .opening :: .closing :: ts => some (.meaningless, ts)
    | .opening :: ts => do
      let (e, ts) ← parseSum fuel ts
      match ts with
      | .closing :: ts => return (e, ts)
      | _ => none
    | _ => none

end

/-- The expression that a list of tokens spells, if it spells one. -/
def ofTokens? (ts : List Token) : Option Expr :=
  match parseSum (8 * ts.length + 8) ts with
  | some (e, []) => some e
  | _ => none

end Expr

end Organizer.Arithmetic
