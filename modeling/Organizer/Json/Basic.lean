import Organizer.Json.Scalar

/-!
# JSON values

The records of the organizer are JSON values: scalars, lists and objects. An object keeps its fields
in order, because order shows: a file is written back with its keys where they stood. `Fields.set`
therefore overwrites a field in place and appends a new one.

Values can be nested, but not without bound: `Json.depth` counts the levels, and what reads, keeps
and writes values has its limits.
-/

namespace Organizer

open Number Text

/-- A JSON value. -/
inductive Json
  | scalar (x : Scalar)
  | arr (items : List Json)
  | obj (fields : List (Scalar × Json))
  deriving Inhabited

/-- The fields of an object, in order. -/
abbrev Fields := List (Scalar × Json)

namespace Json

/-! ### Scalars as values -/

/-- The value for nothing. -/
@[match_pattern] abbrev null : Json := .scalar .null

/-- A truth value. -/
@[match_pattern] abbrev bool (b : Bool) : Json := .scalar (.bool b)

/-- A whole number. -/
@[match_pattern] abbrev int (n : Int) : Json := .scalar (.int n)

/-- A double. -/
@[match_pattern] abbrev double (x : Float) : Json := .scalar (.double x)

/-- A text. -/
@[match_pattern] abbrev str (s : String) : Json := .scalar (.text s)

/-! ### Equality -/

mutual

/-- Compares two values. -/
def beq : Json → Json → Bool
  | .scalar a, .scalar b => decide (a = b)
  | .arr a, .arr b => beqItems a b
  | .obj a, .obj b => beqFields a b
  | _, _ => false
termination_by structural a => a

/-- Compares two lists of values. -/
def beqItems : List Json → List Json → Bool
  | [], [] => true
  | a :: as, b :: bs => beq a b && beqItems as bs
  | _, _ => false
termination_by structural a => a

/-- Compares two lists of fields. -/
def beqFields : List (Scalar × Json) → List (Scalar × Json) → Bool
  | [], [] => true
  | (k, a) :: as, (l, b) :: bs => decide (k = l) && beq a b && beqFields as bs
  | _, _ => false
termination_by structural a => a

end

mutual

theorem eq_of_beq : ∀ {a b : Json}, a.beq b = true → a = b
  | .scalar a, b, h => by cases b <;> simp_all [beq]
  | .arr a, b, h => by
    cases b <;> simp only [beq, Bool.false_eq_true] at h
    exact congrArg _ (eq_of_beqItems h)
  | .obj a, b, h => by
    cases b <;> simp only [beq, Bool.false_eq_true] at h
    exact congrArg _ (eq_of_beqFields h)

theorem eq_of_beqItems : ∀ {a b : List Json}, beqItems a b = true → a = b
  | [], b, h => by cases b <;> simp_all [beqItems]
  | x :: xs, b, h => by
    cases b with
    | nil => simp [beqItems] at h
    | cons y ys =>
      simp only [beqItems, Bool.and_eq_true] at h
      rw [eq_of_beq h.1, eq_of_beqItems h.2]

theorem eq_of_beqFields : ∀ {a b : List (Scalar × Json)}, beqFields a b = true → a = b
  | [], b, h => by cases b <;> simp_all [beqFields]
  | (k, x) :: xs, b, h => by
    cases b with
    | nil => simp [beqFields] at h
    | cons y ys =>
      obtain ⟨l, y⟩ := y
      simp only [beqFields, Bool.and_eq_true, decide_eq_true_eq] at h
      rw [h.1.1, eq_of_beq h.1.2, eq_of_beqFields h.2]

end

mutual

theorem beq_refl : ∀ a : Json, a.beq a = true
  | .scalar _ => by simp [beq]
  | .arr a => by simp [beq, beqItems_refl a]
  | .obj a => by simp [beq, beqFields_refl a]

theorem beqItems_refl : ∀ a : List Json, beqItems a a = true
  | [] => rfl
  | x :: xs => by simp [beqItems, beq_refl x, beqItems_refl xs]

theorem beqFields_refl : ∀ a : List (Scalar × Json), beqFields a a = true
  | [] => rfl
  | (k, x) :: xs => by simp [beqFields, beq_refl x, beqFields_refl xs]

end

instance : DecidableEq Json := fun a b ↦
  decidable_of_iff (a.beq b = true) ⟨eq_of_beq, fun h ↦ h ▸ beq_refl a⟩

end Json

/-! ### Fields -/

namespace Fields

/-- The value of a field. -/
def get? (fs : Fields) (key : Scalar) : Option Json := fs.lookup key

/-- The names of the fields, in order. -/
def keys (fs : Fields) : List Scalar := fs.map (·.1)

/-- Gives a field a value: in place if there is one of that name, else at the end. -/
def set : Fields → Scalar → Json → Fields
  | [], key, v => [(key, v)]
  | (k, w) :: fs, key, v => if k = key then (k, v) :: fs else (k, w) :: set fs key v

/-- Sets fields one after the other, so that a repeated name has its first place and its last
value. -/
def ofList (pairs : List (Scalar × Json)) : Fields :=
  pairs.foldl (fun fs p ↦ fs.set p.1 p.2) []

/-- The name among the fields that is like a given one, or else that one. -/
def nameLike (fs : Fields) (key : Scalar) : Scalar := (fs.keys.find? key.alike).getD key

/-- Sets fields one after the other, names that are equal by value being one: it has the first of
the names and the last of the values. -/
def ofPairs (pairs : List (Scalar × Json)) : Fields :=
  pairs.foldl (fun fs p ↦ fs.set (fs.nameLike p.1) p.2) []

@[simp] theorem get?_nil (key : Scalar) : get? [] key = none := rfl

theorem get?_cons (k : Scalar) (w : Json) (fs : Fields) (key : Scalar) :
    get? ((k, w) :: fs) key = if key = k then some w else fs.get? key := by
  by_cases h : key = k
  · simp [get?, h]
  · have hb : (key == k) = false := by simpa using h
    simp [get?, List.lookup_cons, hb, h]

theorem get?_set_self (fs : Fields) (key : Scalar) (v : Json) :
    (fs.set key v).get? key = some v := by
  induction fs with
  | nil => simp [set, get?_cons]
  | cons p fs ih =>
    obtain ⟨k, w⟩ := p
    by_cases h : k = key
    · simp [set, h, get?_cons]
    · simp [set, h, get?_cons, ih, Ne.symm h]

theorem get?_set_of_ne (fs : Fields) {key other : Scalar} (v : Json) (h : other ≠ key) :
    (fs.set key v).get? other = fs.get? other := by
  induction fs with
  | nil => simp [set, get?_cons, h]
  | cons p fs ih =>
    obtain ⟨k, w⟩ := p
    by_cases hk : k = key
    · subst hk; simp [set, get?_cons, h]
    · simp [set, hk, get?_cons, ih]

/-- Setting a field keeps the other names where they are. -/
theorem keys_set (fs : Fields) (key : Scalar) (v : Json) :
    (fs.set key v).keys = if key ∈ fs.keys then fs.keys else fs.keys ++ [key] := by
  induction fs with
  | nil => simp [set, keys]
  | cons p fs ih =>
    obtain ⟨k, w⟩ := p
    by_cases hk : k = key
    · subst hk; simp [set, keys]
    · simp only [set, hk, if_false]
      simp only [keys, List.map_cons] at ih ⊢
      rw [ih]
      by_cases hm : key ∈ fs.map (·.1) <;> simp [hm, Ne.symm hk]

end Fields

namespace Json

/-! ### Looking into a value -/

/-- The text, if the value is one that can be written. -/
def asText? : Json → Option String
  | .str s => some s
  | _ => none

/-- The fields, if the value is an object. -/
def asFields? : Json → Option Fields
  | .obj fs => some fs
  | _ => none

/-- The scalar, if the value is one. -/
def asScalar? : Json → Option Scalar
  | .scalar x => some x
  | _ => none

/-- The text as it is shown, if the value is one. -/
def shown? (v : Json) : Option String := v.asScalar?.bind Scalar.shown?

/-- Is the value a text? -/
def isText : Json → Bool
  | .scalar x => x.isText
  | _ => false

/-- Is the value a text that cannot be written? -/
def isTorn : Json → Bool
  | .scalar x => x.isTorn
  | _ => false

/-- Is the value nothing: null, false, zero, or an empty text, list or object? -/
def isNothing : Json → Bool
  | .scalar x => x.isNothing
  | .arr xs => xs.isEmpty
  | .obj fs => fs.isEmpty

/-- The items that a value is made of: those of a list, the characters of a text, the names of an
object's fields. -/
def items? : Json → Option (List Json)
  | .scalar x => x.points?.map fun ps ↦ ps.map fun p ↦ .scalar (.ofPoints [p])
  | .arr items => some items
  | .obj fs => some (fs.map fun f ↦ .scalar f.1)

/-! ### Nesting and torn texts -/

mutual

/-- How many levels of lists and objects a value has. -/
def depth : Json → Nat
  | .scalar _ => 0
  | .arr xs => depthOfItems xs + 1
  | .obj fs => depthOfFields fs + 1
termination_by structural v => v

/-- The most levels that one of the items has. -/
def depthOfItems : List Json → Nat
  | [] => 0
  | x :: xs => max (depth x) (depthOfItems xs)
termination_by structural xs => xs

/-- The most levels that one of the fields has. -/
def depthOfFields : List (Scalar × Json) → Nat
  | [] => 0
  | (_, x) :: fs => max (depth x) (depthOfFields fs)
termination_by structural fs => fs

end

mutual

/-- Is there a torn text anywhere in a value, names included? -/
def hasTorn : Json → Bool
  | .scalar x => x.isTorn
  | .arr xs => hasTornItem xs
  | .obj fs => hasTornField fs
termination_by structural v => v

/-- Is there a torn text in one of the items? -/
def hasTornItem : List Json → Bool
  | [] => false
  | x :: xs => hasTorn x || hasTornItem xs
termination_by structural xs => xs

/-- Is there a torn text in one of the fields, or in its name? -/
def hasTornField : List (Scalar × Json) → Bool
  | [] => false
  | (k, x) :: fs => k.isTorn || hasTorn x || hasTornField fs
termination_by structural fs => fs

end

/-! ### Scalars anywhere -/

mutual

/-- Have all scalars of a value a property, names included? -/
def allScalars (p : Scalar → Bool) : Json → Bool
  | .scalar x => p x
  | .arr xs => allScalarsOfItems p xs
  | .obj fs => allScalarsOfFields p fs
termination_by structural v => v

/-- Have all scalars of the items a property? -/
def allScalarsOfItems (p : Scalar → Bool) : List Json → Bool
  | [] => true
  | x :: xs => allScalars p x && allScalarsOfItems p xs
termination_by structural xs => xs

/-- Have all scalars of the fields a property, names included? -/
def allScalarsOfFields (p : Scalar → Bool) : List (Scalar × Json) → Bool
  | [] => true
  | (k, x) :: fs => p k && allScalars p x && allScalarsOfFields p fs
termination_by structural fs => fs

end

/-! ### Comparison by value -/

mutual

/-- Are two values equal by value? Numbers of different kinds can be equal, and the order of fields
does not count. -/
def alike : Json → Json → Bool
  | .scalar a, .scalar b => a.alike b
  | .arr a, .arr b => alikeItems a b
  | .obj a, .obj b => a.length == b.length && fieldsWithin a b
  | _, _ => false
termination_by structural a => a

/-- Are two lists equal by value? -/
def alikeItems : List Json → List Json → Bool
  | [], [] => true
  | a :: as, b :: bs => alike a b && alikeItems as bs
  | _, _ => false
termination_by structural a => a

/-- Has the second object each field of the first, with an equal value? -/
def fieldsWithin : List (Scalar × Json) → List (Scalar × Json) → Bool
  | [], _ => true
  | (k, a) :: as, b =>
    (match Fields.get? b (Fields.nameLike b k) with
      | some v => alike a v
      | none => false) && fieldsWithin as b
termination_by structural a => a

end

/-- Equality by value as a search uses it: a double that is no number is then not even equal to
itself, unless it stands inside a list or an object. -/
def sameAs (a b : Json) : Bool :=
  alike a b && !(a.asScalar?.map Scalar.isUndefined).getD false

/-- The values without repetitions, equality being by value; the first of equal values stays. -/
def distinct (xs : List Json) : List Json :=
  xs.foldl (fun seen x ↦ if seen.any (alike · x) then seen else seen ++ [x]) []

end Json

end Organizer
