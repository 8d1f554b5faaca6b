import Organizer.Arithmetic.Expr

/-!
# How deep an expression is nested

An expression is handled only if it is not nested too deep, and depth is measured twice.

While it is parsed, every number and every parenthesis is reached by going down some levels: many
for a parenthesis around it, one for each sign in front of it, two for each power whose exponent it
is in. `overflows` tells whether the tokens lead down too far. An expression with a mistake in it is
parsed once more to find out what is wrong, and then a parenthesis costs more; a text that ends
before all parentheses are closed is not.

Once it is parsed, the height of its tree counts (`Expr.height`).
-/

namespace Organizer.Arithmetic

/-! ### Levels of the parser -/

/-- What a pass of the parser can bear. -/
structure Pass where
  /-- The levels of a parenthesis around an expression. -/
  group : Nat
  /-- The levels of a parenthesis behind an expression. -/
  application : Nat
  /-- The number of levels at which a number is too deep. -/
  limit : Nat

/-- The first pass. -/
def firstPass : Pass := ⟨28, 24, 5976⟩

/-- The pass that looks for a mistake. -/
def secondPass : Pass := ⟨30, 25, 5973⟩

/-- What can come next. -/
inductive Next
  | operator
  | operand
  /-- The operand of a sign. -/
  | signedOperand
  /-- The first operand in a parenthesis. -/
  | firstOperand
  deriving DecidableEq, Repr

/-- How many levels above a number it is noticed that there is no token. -/
def Next.foresight : Next → Nat
  | .operator | .operand => 0
  | .signedOperand => 5
  | .firstOperand => 24

/-- Where the parser is: the levels of the operands of the innermost parenthesis, the levels of the
next operand, and the same of the parentheses around it. -/
structure Position where
  base : Nat := 0
  current : Nat := 0
  outer : List (Nat × Nat) := []

namespace Position

/-- Goes into a parenthesis. -/
def enter (p : Position) (levels : Nat) : Position :=
  ⟨p.current + levels, p.current + levels, (p.base, p.current) :: p.outer⟩

/-- Comes out of a parenthesis. -/
def leave (p : Position) : Position :=
  match p.outer with
  | (base, current) :: outer => ⟨base, current, outer⟩
  | [] => p

end Position

/-- How a walk over tokens ends. -/
inductive Walk
  | tooDeep
  /-- At a token that cannot stand there, or at the end where an operand is missing. -/
  | mistake
  /-- At the end of the tokens, perhaps with parentheses open. -/
  | finished (isOpen : Bool)
  deriving DecidableEq, Repr

/-- Walks over tokens. -/
def walk (pass : Pass) (p : Position) (next : Next) : List Token → Walk
  | [] =>
    if next ≠ .operator ∧ pass.limit + next.foresight ≤ p.current then .tooDeep
    else if next ≠ .operator ∧ p.outer = [] then .mistake
    else .finished !p.outer.isEmpty
  | t :: ts =>
    if next = .operator then
      match t with
      | .plus | .minus | .star | .slash | .doubleSlash | .percent =>
        walk pass { p with current := p.base } .operand ts
      | .power => walk pass { p with current := p.current + 2 } .operand ts
      | .opening => walk pass (p.enter pass.application) .firstOperand ts
      | .closing => walk pass p.leave .operator ts
      | _ => .mistake
    else
      match t with
      | .plus | .minus => walk pass { p with current := p.current + 1 } .signedOperand ts
      | .opening => walk pass (p.enter pass.group) .firstOperand ts
      | .whole _ | .double _ | .ellipsis =>
        if pass.limit ≤ p.current then .tooDeep else walk pass p .operator ts
      | .closing => if pass.limit ≤ p.current then .tooDeep else walk pass p.leave .operator ts
      | _ => if pass.limit + 2 ≤ p.current then .tooDeep else .mistake

/-- Does parsing lead down too far? The tokens are those up to the first place without one, and
`isWhole` tells whether that is the end of the text. -/
def overflows (ts : List Token) (isWhole : Bool) : Bool :=
  match walk firstPass {} .operand ts with
  | .tooDeep => true
  | .finished isOpen => isWhole && !isOpen && (Expr.ofTokens? ts).isNone && isTooDeepAgain
  | .mistake => isTooDeepAgain
where
  /-- Is it too deep for the second pass? -/
  isTooDeepAgain : Bool := walk secondPass {} .operand ts == .tooDeep

/-! ### The tree -/

/-- The height of the tree of an expression. -/
def Expr.height : Expr → Nat
  | .positive e | .negative e => e.height + 1
  | .binary _ left right => max left.height right.height + 1
  | _ => 1

/-- The greatest height of a tree. -/
def maxHeight : Nat := 2970

end Organizer.Arithmetic
