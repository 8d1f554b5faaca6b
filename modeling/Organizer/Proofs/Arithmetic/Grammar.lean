import Mathlib.Algebra.Group.Int.Defs
import Mathlib.Algebra.Group.Nat.Defs
import Mathlib.Data.Nat.Size
import Organizer.Arithmetic.Eval

/-!
# The grammar of whole-number arithmetic

What an expression of whole numbers is and what it is worth, said without the lexer, the parser and
the evaluator. Only the five exact operators occur here: sum, difference, product, remainder and
power.

* `Reads` relates a text to its tokens: numbers and operators are read by longest match, spaces may
  stand between them.
* `Spells` relates tokens to an expression at one of the five levels of the grammar. The rules of a
  sum and of a product are left recursive, and the exponent of a power is a signed operand, so each
  rule says how its operator groups.
* `Expr.value?` is the integer that an expression is equal to. There is none where a divisor is zero
  or an exponent negative.
-/

namespace Organizer.Arithmetic

open Text

/-! ### Texts and tokens -/

/-- Can the character stand in an expression of whole numbers? -/
def isPlain (c : Char) : Bool := (asciiDigit? c).isSome || "+-*%() ".toList.contains c

/-- The token that a character is, whatever follows it. -/
def symbol? (c : Char) : Option Token :=
  if c = '+' then some .plus
  else if c = '-' then some .minus
  else if c = '%' then some .percent
  else if c = '(' then some .opening
  else if c = ')' then some .closing
  else none

/-- Digits that are a way to write a number: with a zero in front, all are zeros. -/
structure IsNumeral (ds : List Nat) : Prop where
  digit : ∀ d ∈ ds, d < 10
  ne_nil : ds ≠ []
  zeros : ds.head? = some 0 → ∀ d ∈ ds, d = 0

/-- What follows the digits of a number is not one more digit. -/
def EndsNumber (cs : List Char) : Prop := ∀ c, cs.head? = some c → asciiDigit? c = none

/-- The text consists of the tokens, read by longest match. -/
inductive Reads : List Char → List Token → Prop
  | nil : Reads [] []
  | space {cs : List Char} {ts : List Token} : Reads cs ts → Reads (' ' :: cs) ts
  | symbol {c : Char} {t : Token} {cs : List Char} {ts : List Token} :
      symbol? c = some t → Reads cs ts → Reads (c :: cs) (t :: ts)
  | star {cs : List Char} {ts : List Token} :
      cs.head? ≠ some '*' → Reads cs ts → Reads ('*' :: cs) (.star :: ts)
  | power {cs : List Char} {ts : List Token} :
      Reads cs ts → Reads ('*' :: '*' :: cs) (.power :: ts)
  | number {ds : List Nat} {cs : List Char} {ts : List Token} :
      IsNumeral ds → EndsNumber cs → Reads cs ts →
      Reads (ds.map Nat.digitChar ++ cs) (.whole (ofDigits ds) :: ts)

/-! ### Tokens and expressions -/

/-- The levels of the grammar. -/
inductive Level
  | sum
  | product
  | unary
  | power
  | atom
  deriving DecidableEq, Repr

/-- The tokens spell the expression. -/
inductive Spells : Level → List Token → Expr → Prop
  | number (n : Nat) : Spells .atom [.whole n] (.whole n)
  | group {ts : List Token} {e : Expr} :
      Spells .sum ts e → Spells .atom (.opening :: ts ++ [.closing]) e
  | atom {ts : List Token} {e : Expr} : Spells .atom ts e → Spells .power ts e
  | raise {ts us : List Token} {e x : Expr} :
      Spells .atom ts e → Spells .unary us x → Spells .power (ts ++ .power :: us) (.binary .pow e x)
  | power {ts : List Token} {e : Expr} : Spells .power ts e → Spells .unary ts e
  | positive {ts : List Token} {e : Expr} :
      Spells .unary ts e → Spells .unary (.plus :: ts) (.positive e)
  | negative {ts : List Token} {e : Expr} :
      Spells .unary ts e → Spells .unary (.minus :: ts) (.negative e)
  | unary {ts : List Token} {e : Expr} : Spells .unary ts e → Spells .product ts e
  | mul {ts us : List Token} {e f : Expr} :
      Spells .product ts e → Spells .unary us f →
      Spells .product (ts ++ .star :: us) (.binary .mul e f)
  | mod {ts us : List Token} {e f : Expr} :
      Spells .product ts e → Spells .unary us f →
      Spells .product (ts ++ .percent :: us) (.binary .mod e f)
  | product {ts : List Token} {e : Expr} : Spells .product ts e → Spells .sum ts e
  | add {ts us : List Token} {e f : Expr} :
      Spells .sum ts e → Spells .product us f → Spells .sum (ts ++ .plus :: us) (.binary .add e f)
  | sub {ts us : List Token} {e f : Expr} :
      Spells .sum ts e → Spells .product us f → Spells .sum (ts ++ .minus :: us) (.binary .sub e f)

/-! ### Values -/

/-- The exact result of an operator on integers; the remainder takes the sign of the divisor. -/
def Op.onIntegers? : Op → Int → Int → Option Int
  | .add, m, n => some (m + n)
  | .sub, m, n => some (m - n)
  | .mul, m, n => some (m * n)
  | .mod, m, n => if n = 0 then none else some (m.fmod n)
  | .pow, m, n => if n < 0 then none else some (m ^ n.toNat)
  | .div, _, _ | .wholeDiv, _, _ => none

namespace Expr

/-- The integer that an expression of whole numbers is equal to. -/
def value? : Expr → Option Int
  | .whole n => some n
  | .positive e => e.value?
  | .negative e => e.value?.map (- ·)
  | .binary op e f => do op.onIntegers? (← e.value?) (← f.value?)
  | _ => none

/-- The expression and all the expressions it is made of. -/
def parts : Expr → List Expr
  | .positive e => .positive e :: e.parts
  | .negative e => .negative e :: e.parts
  | .binary op e f => .binary op e f :: (e.parts ++ f.parts)
  | e => [e]

theorem self_mem_parts (e : Expr) : e ∈ e.parts := by
  cases e <;> simp [parts]

theorem mem_parts_binary {op : Op} {e f p : Expr} :
    p ∈ (binary op e f).parts ↔ p = .binary op e f ∨ p ∈ e.parts ∨ p ∈ f.parts := by
  rw [parts, List.mem_cons, List.mem_append]

/-- No exponent has a negative value. -/
def ExponentsNonneg (e : Expr) : Prop :=
  ∀ b x n, .binary .pow b x ∈ e.parts → x.value? = some n → 0 ≤ n

/-- No modulus is zero. -/
def ModuliNonzero (e : Expr) : Prop := ∀ a b, .binary .mod a b ∈ e.parts → b.value? ≠ some 0

/-- All numbers in the expression and all values on the way have at most ten thousand bits. -/
def IsSmall (e : Expr) : Prop := ∀ p ∈ e.parts, ∀ n, p.value? = some n → n.natAbs.size ≤ 10000

end Expr

/-! ### Limits -/

/-- How deep the tokens and the expression they spell may be nested to be handled at all. -/
structure IsShallow (ts : List Token) (e : Expr) : Prop where
  /-- The parentheses that are open at once. -/
  openings : ∀ us, us <+: ts → us.count .opening ≤ us.count .closing + maxOpen
  /-- The levels of the parser. -/
  levels : overflows ts true = false
  /-- The levels of the evaluator. -/
  height : e.height ≤ maxDepth

end Organizer.Arithmetic
