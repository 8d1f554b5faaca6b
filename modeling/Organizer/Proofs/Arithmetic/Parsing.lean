import Organizer.Proofs.Arithmetic.Grammar

/-!
# The parser and the grammar

On tokens of whole-number arithmetic the parser recognises the grammar. It finds the expression that
the tokens spell (`Spells.ofTokens?`), whatever fuel there is to spare, so tokens spell one
expression at most. And what it finds is spelled by the tokens unless some part of it has no value
(`spells_of_ofTokens?`): applications and empty parentheses, which the parser lets pass, become
meaningless parts.

The fuel is counted from below. An expression of `n` tokens is found at each level with nearly `8 n`
steps, and the tail of a sum or a product keeps at least the rest of them.
-/

namespace Organizer.Arithmetic

open Organizer.Arithmetic.Expr

/-! ### Where an expression ends -/

/-- Does an expression of the level come to its end before the token? -/
def Level.endsAt (l : Level) : Token → Bool
  | .opening | .power => l = .atom
  | .star | .slash | .doubleSlash | .percent => l = .atom ∨ l = .power ∨ l = .unary
  | .plus | .minus => l ≠ .sum
  | _ => true

/-- An expression of the level ends where the tokens begin. -/
def Level.Ends (l : Level) (ts : List Token) : Prop := ∀ t, ts.head? = some t → l.endsAt t = true

theorem Level.ends_nil (l : Level) : l.Ends [] := by
  intro t h
  cases h

theorem Level.ends_cons {l : Level} {t : Token} {ts : List Token} (h : l.endsAt t = true) :
    l.Ends (t :: ts) := by
  intro t' ht'
  cases ht'
  exact h

theorem parseApplications_ends {fuel : Nat} {e : Expr} {ts : List Token}
    (h : ts.head? ≠ some .opening) : parseApplications (fuel + 1) e ts = some (e, ts) := by
  cases ts with
  | nil => rfl
  | cons t ts => cases t <;> first | rfl | exact absurd rfl h

theorem parseProductTail_ends {fuel : Nat} {e : Expr} {ts : List Token}
    (h : Level.product.Ends ts) : parseProductTail (fuel + 1) e ts = some (e, ts) := by
  cases ts with
  | nil => rfl
  | cons t ts =>
    have ht := h t rfl
    cases t <;> first | rfl | cases ht

theorem parseSumTail_ends {fuel : Nat} {e : Expr} {ts : List Token} (h : Level.sum.Ends ts) :
    parseSumTail (fuel + 1) e ts = some (e, ts) := by
  cases ts with
  | nil => rfl
  | cons t ts =>
    have ht := h t rfl
    cases t <;> first | rfl | cases ht

theorem Level.Ends.unary {ts : List Token} (h : Level.product.Ends ts) : Level.unary.Ends ts := by
  intro t ht
  have ht' := h t ht
  cases t <;> first | rfl | cases ht'

theorem Level.Ends.product {ts : List Token} (h : Level.sum.Ends ts) : Level.product.Ends ts := by
  intro t ht
  have ht' := h t ht
  cases t <;> first | rfl | cases ht'

/-! ### Where an expression begins -/

/-- Can an expression of the level begin with the token? -/
def Level.beginsWith (l : Level) : Token → Bool
  | .whole _ | .opening => true
  | .plus | .minus => l ≠ .atom ∧ l ≠ .power
  | _ => false

theorem Spells.begins {l : Level} {ts : List Token} {e : Expr} (h : Spells l ts e) :
    ∃ t us, ts = t :: us ∧ l.beginsWith t = true := by
  induction h with
  | number n => exact ⟨_, _, rfl, rfl⟩
  | group _ _ => exact ⟨_, _, rfl, rfl⟩
  | positive _ _ => exact ⟨_, _, rfl, rfl⟩
  | negative _ _ => exact ⟨_, _, rfl, rfl⟩
  | atom _ ih => exact ih
  | unary _ ih => exact ih
  | product _ ih => exact ih
  | power _ ih =>
    obtain ⟨t, us, rfl, ht⟩ := ih
    exact ⟨t, us, rfl, by cases t <;> first | rfl | cases ht⟩
  | raise _ _ ih _ | mul _ _ ih _ | mod _ _ ih _ | add _ _ ih _ | sub _ _ ih _ =>
    obtain ⟨t, us, rfl, ht⟩ := ih
    exact ⟨t, _, rfl, ht⟩

theorem parseUnary_power {fuel : Nat} {t : Token} {ts : List Token}
    (h : Level.power.beginsWith t = true) :
    parseUnary (fuel + 1) (t :: ts) = parsePower fuel (t :: ts) := by
  cases t <;> first | rfl | cases h

theorem parseAtom_group {fuel : Nat} {t : Token} {ts : List Token}
    (h : Level.sum.beginsWith t = true) :
    parseAtom (fuel + 1) (.opening :: t :: ts) = (parseSum fuel (t :: ts)).bind fun p ↦
      match p.2 with
      | .closing :: us => some (p.1, us)
      | _ => none := by
  cases t <;> first | rfl | cases h

/-! ### The parser finds what the tokens spell -/

/-- The parser finds an expression of the level, with the steps that its tokens allow. -/
def Finds : Level → List Token → Expr → Prop
  | .atom, ts, e => ∀ fuel rest, 8 * ts.length ≤ fuel + 7 →
    parseAtom fuel (ts ++ rest) = some (e, rest)
  | .power, ts, e => ∀ fuel rest, Level.unary.Ends rest → 8 * ts.length ≤ fuel + 5 →
    parsePower fuel (ts ++ rest) = some (e, rest)
  | .unary, ts, e => ∀ fuel rest, Level.unary.Ends rest → 8 * ts.length ≤ fuel + 4 →
    parseUnary fuel (ts ++ rest) = some (e, rest)
  | .product, ts, e => ∀ fuel rest, Level.unary.Ends rest → 8 * ts.length ≤ fuel + 3 →
    ∃ left, fuel ≤ left + ts.length ∧
      parseProduct fuel (ts ++ rest) = parseProductTail left e rest
  | .sum, ts, e => ∀ fuel rest, Level.product.Ends rest → 8 * ts.length ≤ fuel + 2 →
    ∃ left, fuel ≤ left + ts.length ∧ parseSum fuel (ts ++ rest) = parseSumTail left e rest

section

variable {ts us : List Token} {e f : Expr}

theorem Finds.closed (h : Finds .sum ts e) (hne : ts ≠ []) {fuel : Nat} {rest : List Token}
    (hrest : Level.sum.Ends rest) (hfuel : 8 * ts.length ≤ fuel + 2) :
    parseSum fuel (ts ++ rest) = some (e, rest) := by
  have hlength := List.length_pos_iff.2 hne
  obtain ⟨left, hleft, hparse⟩ := h fuel rest hrest.product hfuel
  obtain ⟨left, rfl⟩ := Nat.exists_eq_add_one.2 (show 0 < left by omega)
  rw [hparse, parseSumTail_ends hrest]

theorem Finds.group (h : Finds .sum ts e) (hspells : Spells .sum ts e) :
    Finds .atom (.opening :: ts ++ [.closing]) e := by
  intro fuel rest hfuel
  obtain ⟨t, ts, rfl, ht⟩ := hspells.begins
  simp only [List.length_append, List.length_cons, List.length_nil] at hfuel
  obtain ⟨fuel, rfl⟩ := Nat.exists_eq_add_one.2 (show 0 < fuel by omega)
  have hsum : parseSum fuel (t :: ts ++ .closing :: rest) = some (e, .closing :: rest) :=
    h.closed (List.cons_ne_nil t ts) (Level.ends_cons rfl)
      (by simp only [List.length_cons]; omega)
  have htext : (.opening :: t :: ts ++ [.closing]) ++ rest =
      .opening :: t :: (ts ++ .closing :: rest) := by simp
  rw [htext, parseAtom_group ht, ← List.cons_append, hsum]
  rfl

/-- An atom that is applied to nothing. -/
theorem Finds.primary (h : Finds .atom ts e) (hne : ts ≠ []) {fuel : Nat} {rest : List Token}
    (hrest : rest.head? ≠ some .opening) (hfuel : 8 * ts.length ≤ fuel + 6) :
    parsePrimary fuel (ts ++ rest) = some (e, rest) := by
  have hlength := List.length_pos_iff.2 hne
  obtain ⟨fuel, rfl⟩ := Nat.exists_eq_add_of_le' (show 2 ≤ fuel by omega)
  rw [parsePrimary, h (fuel + 1) rest (by omega)]
  exact parseApplications_ends hrest

theorem Finds.atom (h : Finds .atom ts e) (hne : ts ≠ []) : Finds .power ts e := by
  intro fuel rest hrest hfuel
  have hlength := List.length_pos_iff.2 hne
  obtain ⟨fuel, rfl⟩ := Nat.exists_eq_add_one.2 (show 0 < fuel by omega)
  have hopening : rest.head? ≠ some .opening := by
    intro hhead
    cases hrest _ hhead
  rw [parsePower, h.primary hne hopening (by omega), Option.bind_eq_bind, Option.bind_some]
  cases rest with
  | nil => rfl
  | cons t rest =>
    have ht := hrest t rfl
    cases t <;> first | rfl | cases ht

theorem Finds.raise (h : Finds .atom ts e) (hne : ts ≠ []) (hf : Finds .unary us f) :
    Finds .power (ts ++ .power :: us) (.binary .pow e f) := by
  intro fuel rest hrest hfuel
  rw [List.length_append, List.length_cons] at hfuel
  obtain ⟨fuel, rfl⟩ := Nat.exists_eq_add_one.2 (show 0 < fuel by omega)
  rw [List.append_assoc, List.cons_append, parsePower, h.primary hne (by simp) (by omega),
    Option.bind_eq_bind, Option.bind_some]
  dsimp only
  rw [hf fuel rest hrest (by omega)]
  rfl

theorem Finds.power (h : Finds .power ts e) (hspells : Spells .power ts e) :
    Finds .unary ts e := by
  intro fuel rest hrest hfuel
  obtain ⟨t, ts, rfl, ht⟩ := hspells.begins
  rw [List.length_cons] at hfuel
  obtain ⟨fuel, rfl⟩ := Nat.exists_eq_add_one.2 (show 0 < fuel by omega)
  rw [List.cons_append, parseUnary_power ht, ← List.cons_append]
  exact h fuel rest hrest (by rw [List.length_cons]; omega)

theorem Finds.positive (h : Finds .unary ts e) : Finds .unary (.plus :: ts) (.positive e) := by
  intro fuel rest hrest hfuel
  rw [List.length_cons] at hfuel
  obtain ⟨fuel, rfl⟩ := Nat.exists_eq_add_one.2 (show 0 < fuel by omega)
  rw [List.cons_append, parseUnary, h fuel rest hrest (by omega)]
  rfl

theorem Finds.negative (h : Finds .unary ts e) : Finds .unary (.minus :: ts) (.negative e) := by
  intro fuel rest hrest hfuel
  rw [List.length_cons] at hfuel
  obtain ⟨fuel, rfl⟩ := Nat.exists_eq_add_one.2 (show 0 < fuel by omega)
  rw [List.cons_append, parseUnary, h fuel rest hrest (by omega)]
  rfl

theorem Finds.unary (h : Finds .unary ts e) (hne : ts ≠ []) : Finds .product ts e := by
  intro fuel rest hrest hfuel
  have hlength := List.length_pos_iff.2 hne
  obtain ⟨fuel, rfl⟩ := Nat.exists_eq_add_one.2 (show 0 < fuel by omega)
  refine ⟨fuel, by omega, ?_⟩
  rw [parseProduct, h fuel rest hrest (by omega)]
  rfl

/-- One more factor. The tail of the product takes the operator and then looks for the factor. -/
theorem Finds.factor (h : Finds .product ts e) (hf : Finds .unary us f) {t : Token} {op : Op}
    (hend : Level.unary.endsAt t = true)
    (htail : ∀ fuel rest, parseProductTail (fuel + 1) e (t :: rest) =
      (parseUnary fuel rest).bind fun p ↦ parseProductTail fuel (.binary op e p.1) p.2) :
    Finds .product (ts ++ t :: us) (.binary op e f) := by
  intro fuel rest hrest hfuel
  rw [List.length_append, List.length_cons] at hfuel
  obtain ⟨left, hleft, hparse⟩ :=
    h fuel (t :: us ++ rest) (Level.ends_cons hend) (by omega)
  obtain ⟨left, rfl⟩ := Nat.exists_eq_add_one.2 (show 0 < left by omega)
  refine ⟨left, by rw [List.length_append, List.length_cons]; omega, ?_⟩
  rw [List.append_assoc, hparse, List.cons_append, htail, hf left rest hrest (by omega)]
  rfl

theorem Finds.product (h : Finds .product ts e) (hne : ts ≠ []) : Finds .sum ts e := by
  intro fuel rest hrest hfuel
  have hlength := List.length_pos_iff.2 hne
  obtain ⟨fuel, rfl⟩ := Nat.exists_eq_add_one.2 (show 0 < fuel by omega)
  obtain ⟨left, hleft, hparse⟩ := h fuel rest hrest.unary (by omega)
  obtain ⟨left, rfl⟩ := Nat.exists_eq_add_one.2 (show 0 < left by omega)
  refine ⟨fuel, by omega, ?_⟩
  rw [parseSum, hparse, parseProductTail_ends hrest]
  rfl

/-- A product with nothing more to come. -/
theorem Finds.factors (h : Finds .product ts e) (hne : ts ≠ []) {fuel : Nat} {rest : List Token}
    (hrest : Level.product.Ends rest) (hfuel : 8 * ts.length ≤ fuel + 3) :
    parseProduct fuel (ts ++ rest) = some (e, rest) := by
  have hlength := List.length_pos_iff.2 hne
  obtain ⟨left, hleft, hparse⟩ := h fuel rest hrest.unary hfuel
  obtain ⟨left, rfl⟩ := Nat.exists_eq_add_one.2 (show 0 < left by omega)
  rw [hparse, parseProductTail_ends hrest]

/-- One more summand. -/
theorem Finds.summand (h : Finds .sum ts e) (hf : Finds .product us f) (hne : us ≠ []) {t : Token}
    {op : Op} (hend : Level.product.endsAt t = true)
    (htail : ∀ fuel rest, parseSumTail (fuel + 1) e (t :: rest) =
      (parseProduct fuel rest).bind fun p ↦ parseSumTail fuel (.binary op e p.1) p.2) :
    Finds .sum (ts ++ t :: us) (.binary op e f) := by
  intro fuel rest hrest hfuel
  rw [List.length_append, List.length_cons] at hfuel
  obtain ⟨left, hleft, hparse⟩ :=
    h fuel (t :: us ++ rest) (Level.ends_cons hend) (by omega)
  obtain ⟨left, rfl⟩ := Nat.exists_eq_add_one.2 (show 0 < left by omega)
  refine ⟨left, by rw [List.length_append, List.length_cons]; omega, ?_⟩
  rw [List.append_assoc, hparse, List.cons_append, htail, hf.factors hne hrest (by omega)]
  rfl

end

theorem Spells.ne_nil {l : Level} {ts : List Token} {e : Expr} (h : Spells l ts e) : ts ≠ [] := by
  obtain ⟨t, us, rfl, -⟩ := h.begins
  exact List.cons_ne_nil t us

theorem Spells.finds {l : Level} {ts : List Token} {e : Expr} (h : Spells l ts e) :
    Finds l ts e := by
  induction h with
  | number n =>
    intro fuel rest hfuel
    rw [List.length_singleton] at hfuel
    obtain ⟨fuel, rfl⟩ := Nat.exists_eq_add_one.2 (show 0 < fuel by omega)
    rfl
  | group he ih => exact ih.group he
  | atom he ih => exact ih.atom he.ne_nil
  | raise he _ ih ih' => exact ih.raise he.ne_nil ih'
  | power he ih => exact ih.power he
  | positive _ ih => exact ih.positive
  | negative _ ih => exact ih.negative
  | unary he ih => exact ih.unary he.ne_nil
  | mul _ _ ih ih' => exact ih.factor ih' rfl fun _ _ ↦ rfl
  | mod _ _ ih ih' => exact ih.factor ih' rfl fun _ _ ↦ rfl
  | product he ih => exact ih.product he.ne_nil
  | add _ hf ih ih' => exact ih.summand ih' hf.ne_nil rfl fun _ _ ↦ rfl
  | sub _ hf ih ih' => exact ih.summand ih' hf.ne_nil rfl fun _ _ ↦ rfl

/-- The parser finds the expression that the tokens spell. -/
theorem Spells.ofTokens? {ts : List Token} {e : Expr} (h : Spells .sum ts e) :
    ofTokens? ts = some e := by
  have hparse : parseSum (8 * ts.length + 8) (ts ++ []) = some (e, []) :=
    h.finds.closed h.ne_nil (Level.ends_nil .sum) (by omega)
  rw [List.append_nil] at hparse
  rw [Expr.ofTokens?, hparse]

/-! ### What the parser finds is spelled by the tokens -/

/-- Can the token occur where all operators are exact? -/
def Token.isExact : Token → Bool
  | .double _ | .slash | .doubleSlash | .ellipsis => false
  | _ => true

/-- No token of a list leads out of whole numbers. -/
def IsExact (ts : List Token) : Prop := ∀ t ∈ ts, t.isExact = true

theorem IsExact.tail {t : Token} {ts : List Token} (h : IsExact (t :: ts)) : IsExact ts :=
  fun t' ht' ↦ h t' (List.mem_cons_of_mem _ ht')

/-- No part of an expression is a form without a value. -/
def Expr.IsMeaningful (e : Expr) : Prop := .meaningless ∉ e.parts

theorem not_isMeaningful_meaningless : ¬ Expr.meaningless.IsMeaningful := by
  intro h
  exact h (self_mem_parts _)

theorem Expr.IsMeaningful.of_binary {op : Op} {e f : Expr} (h : (Expr.binary op e f).IsMeaningful) :
    e.IsMeaningful ∧ f.IsMeaningful := by
  refine ⟨fun he ↦ h ?_, fun hf ↦ h ?_⟩ <;> simp [parts, *]

theorem Expr.IsMeaningful.of_sign {e : Expr} :
    ((Expr.positive e).IsMeaningful → e.IsMeaningful) ∧
      ((Expr.negative e).IsMeaningful → e.IsMeaningful) := by
  refine ⟨fun h he ↦ h ?_, fun h he ↦ h ?_⟩ <;> simp [parts, he]

/-- What a parser of the level takes off the front spells what it finds. -/
def Grounded (l : Level) (parse : List Token → Option (Expr × List Token)) : Prop :=
  ∀ ts e rest, IsExact ts → parse ts = some (e, rest) →
    IsExact rest ∧ (e.IsMeaningful → ∃ us, ts = us ++ rest ∧ Spells l us e)

/-- What a parser of tails takes off the front continues what stands before it. -/
def Continued (l : Level) (parse : Expr → List Token → Option (Expr × List Token)) : Prop :=
  ∀ left ts e rest, IsExact ts → parse left ts = some (e, rest) →
    IsExact rest ∧ (e.IsMeaningful → left.IsMeaningful ∧
      ∃ us, ts = us ++ rest ∧ ∀ vs, Spells l vs left → Spells l (vs ++ us) e)

theorem Continued.nothing {l : Level} {left : Expr} {ts : List Token} (h : IsExact ts) :
    IsExact ts ∧ (left.IsMeaningful → left.IsMeaningful ∧
      ∃ us, ts = us ++ ts ∧ ∀ vs, Spells l vs left → Spells l (vs ++ us) left) :=
  ⟨h, fun hleft ↦ ⟨hleft, [], rfl, fun vs hvs ↦ by rwa [List.append_nil]⟩⟩

/-- An operator, its right operand and what follows them. -/
theorem Continued.operand {l m : Level} {operand : List Token → Option (Expr × List Token)}
    {tail : Expr → List Token → Option (Expr × List Token)} (hoperand : Grounded m operand)
    (htail : Continued l tail) {t : Token} {op : Op}
    (hrule : ∀ {vs ws : List Token} {e f : Expr}, Spells l vs e → Spells m ws f →
      Spells l (vs ++ t :: ws) (.binary op e f))
    {left e : Expr} {ts rest : List Token} (hexact : IsExact (t :: ts))
    (h : ((operand ts).bind fun p ↦ tail (.binary op left p.1) p.2) = some (e, rest)) :
    IsExact rest ∧ (e.IsMeaningful → left.IsMeaningful ∧
      ∃ us, t :: ts = us ++ rest ∧ ∀ vs, Spells l vs left → Spells l (vs ++ us) e) := by
  obtain ⟨⟨right, ts'⟩, hright, hparse⟩ := Option.bind_eq_some_iff.1 h
  obtain ⟨hexact', hfound⟩ := hoperand ts right ts' hexact.tail hright
  obtain ⟨hrest, hcontinued⟩ := htail _ ts' e rest hexact' hparse
  refine ⟨hrest, fun hmeaning ↦ ?_⟩
  obtain ⟨hboth, us, rfl, hspells⟩ := hcontinued hmeaning
  obtain ⟨hleft, hright⟩ := hboth.of_binary
  obtain ⟨ws, rfl, hws⟩ := hfound hright
  refine ⟨hleft, t :: ws ++ us, by simp, fun vs hvs ↦ ?_⟩
  rw [← List.append_assoc]
  exact hspells _ (hrule hvs hws)

/-- All parts of the parser keep to the grammar. -/
structure Sound (fuel : Nat) : Prop where
  sum : Grounded .sum (parseSum fuel)
  sumTail : Continued .sum (parseSumTail fuel)
  product : Grounded .product (parseProduct fuel)
  productTail : Continued .product (parseProductTail fuel)
  unary : Grounded .unary (parseUnary fuel)
  power : Grounded .power (parsePower fuel)
  primary : Grounded .atom (parsePrimary fuel)
  applications : ∀ e ts f rest, IsExact ts → parseApplications fuel e ts = some (f, rest) →
    IsExact rest ∧ (f = .meaningless ∨ f = e ∧ rest = ts)
  applied : ∀ ts f rest, IsExact ts → parseApplied fuel ts = some (f, rest) →
    IsExact rest ∧ f = .meaningless
  atom : Grounded .atom (parseAtom fuel)

theorem Sound.zero : Sound 0 where
  sum _ _ _ _ h := nomatch h
  sumTail _ _ _ _ _ h := nomatch h
  product _ _ _ _ h := nomatch h
  productTail _ _ _ _ _ h := nomatch h
  unary _ _ _ _ h := nomatch h
  power _ _ _ _ h := nomatch h
  primary _ _ _ _ h := nomatch h
  applications _ _ _ _ _ h := nomatch h
  applied _ _ _ _ h := nomatch h
  atom _ _ _ _ h := nomatch h

namespace Sound

variable {fuel : Nat} (h : Sound fuel)

include h

theorem sum_succ : Grounded .sum (parseSum (fuel + 1)) := by
  intro ts e rest hexact hparse
  rw [parseSum] at hparse
  obtain ⟨⟨left, ts'⟩, hleft, htail⟩ := Option.bind_eq_some_iff.1 hparse
  obtain ⟨hexact', hfound⟩ := h.product ts left ts' hexact hleft
  obtain ⟨hrest, hcontinued⟩ := h.sumTail left ts' e rest hexact' htail
  refine ⟨hrest, fun hmeaning ↦ ?_⟩
  obtain ⟨hmeaning', us, rfl, hspells⟩ := hcontinued hmeaning
  obtain ⟨vs, rfl, hvs⟩ := hfound hmeaning'
  exact ⟨vs ++ us, (List.append_assoc ..).symm, hspells vs (.product hvs)⟩

theorem sumTail_succ : Continued .sum (parseSumTail (fuel + 1)) := by
  intro left ts e rest hexact hparse
  rw [parseSumTail.eq_def] at hparse
  dsimp only at hparse
  split at hparse
  · exact Continued.operand h.product h.sumTail .add hexact hparse
  · exact Continued.operand h.product h.sumTail .sub hexact hparse
  · cases hparse
    exact Continued.nothing hexact

theorem product_succ : Grounded .product (parseProduct (fuel + 1)) := by
  intro ts e rest hexact hparse
  rw [parseProduct] at hparse
  obtain ⟨⟨left, ts'⟩, hleft, htail⟩ := Option.bind_eq_some_iff.1 hparse
  obtain ⟨hexact', hfound⟩ := h.unary ts left ts' hexact hleft
  obtain ⟨hrest, hcontinued⟩ := h.productTail left ts' e rest hexact' htail
  refine ⟨hrest, fun hmeaning ↦ ?_⟩
  obtain ⟨hmeaning', us, rfl, hspells⟩ := hcontinued hmeaning
  obtain ⟨vs, rfl, hvs⟩ := hfound hmeaning'
  exact ⟨vs ++ us, (List.append_assoc ..).symm, hspells vs (.unary hvs)⟩

theorem productTail_succ : Continued .product (parseProductTail (fuel + 1)) := by
  intro left ts e rest hexact hparse
  rw [parseProductTail.eq_def] at hparse
  dsimp only at hparse
  split at hparse
  · exact Continued.operand h.unary h.productTail .mul hexact hparse
  · cases hexact _ (List.mem_cons_self ..)
  · cases hexact _ (List.mem_cons_self ..)
  · exact Continued.operand h.unary h.productTail .mod hexact hparse
  · cases hparse
    exact Continued.nothing hexact

theorem unary_succ : Grounded .unary (parseUnary (fuel + 1)) := by
  intro ts e rest hexact hparse
  rw [parseUnary.eq_def] at hparse
  dsimp only at hparse
  split at hparse
  · obtain ⟨⟨f, ts'⟩, hoperand, heq⟩ := Option.map_eq_some_iff.1 hparse
    cases heq
    obtain ⟨hrest, hfound⟩ := h.unary _ f _ hexact.tail hoperand
    refine ⟨hrest, fun hmeaning ↦ ?_⟩
    obtain ⟨us, rfl, hus⟩ := hfound (IsMeaningful.of_sign.1 hmeaning)
    exact ⟨.plus :: us, rfl, .positive hus⟩
  · obtain ⟨⟨f, ts'⟩, hoperand, heq⟩ := Option.map_eq_some_iff.1 hparse
    cases heq
    obtain ⟨hrest, hfound⟩ := h.unary _ f _ hexact.tail hoperand
    refine ⟨hrest, fun hmeaning ↦ ?_⟩
    obtain ⟨us, rfl, hus⟩ := hfound (IsMeaningful.of_sign.2 hmeaning)
    exact ⟨.minus :: us, rfl, .negative hus⟩
  · obtain ⟨hrest, hfound⟩ := h.power _ e rest hexact hparse
    refine ⟨hrest, fun hmeaning ↦ ?_⟩
    obtain ⟨us, rfl, hus⟩ := hfound hmeaning
    exact ⟨us, rfl, .power hus⟩

theorem power_succ : Grounded .power (parsePower (fuel + 1)) := by
  intro ts e rest hexact hparse
  rw [parsePower] at hparse
  obtain ⟨⟨base, ts'⟩, hbase, hparse⟩ := Option.bind_eq_some_iff.1 hparse
  obtain ⟨hexact', hfound⟩ := h.primary ts base ts' hexact hbase
  dsimp only at hparse
  split at hparse
  · obtain ⟨⟨exponent, ts''⟩, hexponent, heq⟩ := Option.bind_eq_some_iff.1 hparse
    cases heq
    obtain ⟨hrest, hfound'⟩ := h.unary _ exponent _ hexact'.tail hexponent
    refine ⟨hrest, fun hmeaning ↦ ?_⟩
    obtain ⟨hbase, hexponent⟩ := hmeaning.of_binary
    obtain ⟨us, rfl, hus⟩ := hfound hbase
    obtain ⟨ws, rfl, hws⟩ := hfound' hexponent
    exact ⟨us ++ .power :: ws, by simp, .raise hus hws⟩
  · cases hparse
    refine ⟨hexact', fun hmeaning ↦ ?_⟩
    obtain ⟨us, rfl, hus⟩ := hfound hmeaning
    exact ⟨us, rfl, .atom hus⟩

theorem primary_succ : Grounded .atom (parsePrimary (fuel + 1)) := by
  intro ts e rest hexact hparse
  rw [parsePrimary] at hparse
  obtain ⟨⟨atom, ts'⟩, hatom, hparse⟩ := Option.bind_eq_some_iff.1 hparse
  obtain ⟨hexact', hfound⟩ := h.atom ts atom ts' hexact hatom
  obtain ⟨hrest, hresult⟩ := h.applications atom ts' e rest hexact' hparse
  refine ⟨hrest, fun hmeaning ↦ ?_⟩
  rcases hresult with rfl | ⟨rfl, rfl⟩
  · exact absurd hmeaning not_isMeaningful_meaningless
  · exact hfound hmeaning

theorem applied_succ (ts : List Token) (f : Expr) (rest : List Token) (hexact : IsExact ts)
    (hparse : parseApplied (fuel + 1) ts = some (f, rest)) : IsExact rest ∧ f = .meaningless := by
  rw [parseApplied] at hparse
  obtain ⟨⟨e, ts'⟩, hsum, hparse⟩ := Option.bind_eq_some_iff.1 hparse
  obtain ⟨hexact', -⟩ := h.sum ts e ts' hexact hsum
  dsimp only at hparse
  split at hparse
  · obtain ⟨hrest, hresult⟩ := h.applications _ _ f rest hexact'.tail hparse
    refine ⟨hrest, ?_⟩
    rcases hresult with hf | ⟨hf, -⟩ <;> exact hf
  · cases hparse

theorem applications_succ (e : Expr) (ts : List Token) (f : Expr) (rest : List Token)
    (hexact : IsExact ts) (hparse : parseApplications (fuel + 1) e ts = some (f, rest)) :
    IsExact rest ∧ (f = .meaningless ∨ f = e ∧ rest = ts) := by
  rw [parseApplications.eq_def] at hparse
  dsimp only at hparse
  split at hparse
  · obtain ⟨hrest, hresult⟩ := h.applications _ _ f rest hexact.tail.tail hparse
    refine ⟨hrest, .inl ?_⟩
    rcases hresult with hf | ⟨hf, -⟩ <;> exact hf
  · exact (h.applied _ f rest hexact.tail.tail hparse).imp_right .inl
  · exact (h.applied _ f rest hexact.tail.tail hparse).imp_right .inl
  · exact (h.applied _ f rest hexact.tail hparse).imp_right .inl
  · cases hparse
    exact ⟨hexact, .inr ⟨rfl, rfl⟩⟩

theorem atom_succ : Grounded .atom (parseAtom (fuel + 1)) := by
  intro ts e rest hexact hparse
  rw [parseAtom.eq_def] at hparse
  dsimp only at hparse
  split at hparse
  · cases hparse
    exact ⟨hexact.tail, fun _ ↦ ⟨[_], rfl, .number _⟩⟩
  · cases hexact _ (List.mem_cons_self ..)
  · cases hexact _ (List.mem_cons_self ..)
  · cases hparse
    exact ⟨hexact.tail.tail, fun hmeaning ↦ absurd hmeaning not_isMeaningful_meaningless⟩
  · obtain ⟨⟨f, ts'⟩, hsum, hparse⟩ := Option.bind_eq_some_iff.1 hparse
    obtain ⟨hexact', hfound⟩ := h.sum _ f ts' hexact.tail hsum
    dsimp only at hparse
    split at hparse
    · cases hparse
      refine ⟨hexact'.tail, fun hmeaning ↦ ?_⟩
      obtain ⟨us, rfl, hus⟩ := hfound hmeaning
      exact ⟨.opening :: us ++ [.closing], by simp, .group hus⟩
    · cases hparse
  · cases hparse

theorem succ : Sound (fuel + 1) :=
  ⟨h.sum_succ, h.sumTail_succ, h.product_succ, h.productTail_succ, h.unary_succ, h.power_succ,
    h.primary_succ, h.applications_succ, h.applied_succ, h.atom_succ⟩

end Sound

theorem sound (fuel : Nat) : Sound fuel := by
  induction fuel with
  | zero => exact .zero
  | succ fuel ih => exact ih.succ

/-- What the parser finds is spelled by the tokens if all of it has a meaning. -/
theorem spells_of_ofTokens? {ts : List Token} {e : Expr} (hexact : IsExact ts)
    (hmeaning : e.IsMeaningful) (h : ofTokens? ts = some e) : Spells .sum ts e := by
  rw [Expr.ofTokens?] at h
  split at h
  · rename_i f hparse
    cases h
    obtain ⟨-, hfound⟩ := (sound _).sum ts e [] hexact hparse
    obtain ⟨us, rfl, hus⟩ := hfound hmeaning
    rwa [List.append_nil]
  · cases h

end Organizer.Arithmetic
