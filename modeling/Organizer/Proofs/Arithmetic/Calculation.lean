import Organizer.Proofs.Arithmetic.Outcomes
import Organizer.Proofs.Arithmetic.Parsing
import Organizer.Proofs.Arithmetic.Reading

/-!
# Whole numbers are calculated exactly

The calculator on texts of digits, the five exact operators, parentheses and spaces
(`calculate_of_isPlain`): what it takes is a sentence of the grammar, what it answers is the decimal
text of the integer that the sentence is equal to, and it does answer within its limits.

An evaluation that succeeds has looked at every part of the expression, so no part is without
meaning; its value then follows the derivation of the sentence, rule by rule. In the other direction
the same induction shows that no rule stops the evaluation as long as all parts have small values
and no divisor is zero. Powers are left out there: whether one is worth computing is decided by an
estimate.
-/

namespace Organizer.Arithmetic

open Organizer.Arithmetic.Expr Number Text

/-- An evaluation that succeeds has seen the whole expression. -/
theorem isMeaningful_of_evalWithin {room : Nat} {e : Expr} {v : Value}
    (h : e.evalWithin room = .ok v) : e.IsMeaningful := by
  induction room generalizing e v with
  | zero => cases h
  | succ room ih =>
    cases e with
    | whole n => simp [IsMeaningful, parts]
    | double x => simp [IsMeaningful, parts]
    | positive e =>
      have he := ih (ok_of_positive h)
      simpa [IsMeaningful, parts] using he
    | negative e =>
      obtain ⟨w, hw, -⟩ := ok_of_negative h
      have he := ih hw
      simpa [IsMeaningful, parts] using he
    | binary op e f =>
      obtain ⟨a, b, ha, hb, -⟩ := ok_of_binary h
      have he : .meaningless ∉ e.parts := ih ha
      have hf : .meaningless ∉ f.parts := ih hb
      simp [IsMeaningful, parts, he, hf]
    | meaningless => cases h

/-! ### Values -/

theorem onIntegers_of_apply {op : Op} {m n : Int} {v : Value} (hop : op ≠ .div)
    (hexponent : op = .pow → 0 ≤ n) (h : op.apply (.whole m) (.whole n) = .ok v) :
    ∃ k, v = .whole k ∧ op.onIntegers? m n = some k := by
  cases op with
  | add => exact ⟨m + n, (Except.ok.inj h).symm, rfl⟩
  | sub => exact ⟨m - n, (Except.ok.inj h).symm, rfl⟩
  | mul => exact ⟨m * n, (Except.ok.inj h).symm, rfl⟩
  | div => exact absurd rfl hop
  | mod =>
    simp only [Op.apply, Value.remainder] at h
    split at h
    · cases h
    · rename_i hn
      exact ⟨m.fmod n, (Except.ok.inj h).symm, if_neg hn⟩
  | pow =>
    obtain ⟨k, rfl⟩ := Int.eq_ofNat_of_zero_le (hexponent rfl)
    simp only [Op.apply, Value.power] at h
    split at h
    · cases h
    · exact ⟨m ^ k, (Except.ok.inj h).symm, rfl⟩
  | wholeDiv => cases h

/-- Nothing stops an operator where there is an exact result, but for powers. -/
theorem apply_of_onIntegers {op : Op} {m n k : Int} (hop : op ≠ .pow)
    (h : op.onIntegers? m n = some k) :
    op.apply (.whole m) (.whole n) = .ok (.whole k) := by
  cases op with
  | add | sub | mul => rw [← Option.some.inj h]; rfl
  | mod =>
    rw [Op.onIntegers?] at h
    split at h
    · cases h
    · rename_i hn
      rw [← Option.some.inj h]
      exact if_neg hn
  | pow => exact absurd rfl hop
  | div => cases h
  | wholeDiv => cases h

section

variable {room : Nat} {e f : Expr} {op : Op}

theorem value_of_binary (hop : op ≠ .div) (hexponents : (binary op e f).ExponentsNonneg)
    (he : e.ExponentsNonneg → ∀ {room : Nat} {v : Value}, e.evalWithin room = .ok v →
      ∃ n, v = .whole n ∧ e.value? = some n)
    (hf : f.ExponentsNonneg → ∀ {room : Nat} {v : Value}, f.evalWithin room = .ok v →
      ∃ n, v = .whole n ∧ f.value? = some n)
    {v : Value} (h : (binary op e f).evalWithin (room + 1) = .ok v) :
    ∃ n, v = .whole n ∧ (binary op e f).value? = some n := by
  obtain ⟨a, b, ha, hb, hv⟩ := ok_of_binary h
  obtain ⟨m, rfl, hm⟩ :=
    he (fun b x n hp ↦ hexponents b x n (mem_parts_binary.2 (.inr (.inl hp)))) ha
  obtain ⟨n, rfl, hn⟩ :=
    hf (fun b x n hp ↦ hexponents b x n (mem_parts_binary.2 (.inr (.inr hp)))) hb
  have hexponent : op = .pow → 0 ≤ n := by
    rintro rfl
    exact hexponents e f n (self_mem_parts _) hn
  obtain ⟨k, rfl, hk⟩ := onIntegers_of_apply hop hexponent hv
  exact ⟨k, rfl, by rw [value?, hm, hn]; exact hk⟩

end

/-- What an evaluation gives is the integer that the expression is equal to. -/
theorem value_of_evalWithin {l : Level} {ts : List Token} {e : Expr} (hspells : Spells l ts e)
    (hexponents : e.ExponentsNonneg) {room : Nat} {v : Value} (h : e.evalWithin room = .ok v) :
    ∃ n, v = .whole n ∧ e.value? = some n := by
  induction hspells generalizing room v with
  | number n =>
    cases room with
    | zero => cases h
    | succ room => exact ⟨n, (eq_of_bounded (ok_of_ofFault h)).symm, rfl⟩
  | group _ ih | atom _ ih | power _ ih | unary _ ih | product _ ih => exact ih hexponents h
  | positive _ ih =>
    cases room with
    | zero => cases h
    | succ room =>
      exact ih (fun b x n hp ↦ hexponents b x n (List.mem_cons_of_mem _ hp)) (ok_of_positive h)
  | negative _ ih =>
    cases room with
    | zero => cases h
    | succ room =>
      obtain ⟨w, hw, rfl⟩ := ok_of_negative h
      obtain ⟨n, rfl, hn⟩ := ih (fun b x n hp ↦ hexponents b x n (List.mem_cons_of_mem _ hp)) hw
      exact ⟨-n, rfl, by rw [value?, hn]; rfl⟩
  | raise _ _ ih ih' | mul _ _ ih ih' | mod _ _ ih ih' | add _ _ ih ih' | sub _ _ ih ih' =>
    cases room with
    | zero => cases h
    | succ room => exact value_of_binary (by decide) hexponents ih ih' h

/-! ### Within the limits -/

theorem bounded_of_isSmall {e : Expr} (hsmall : e.IsSmall) {n : Int} (h : e.value? = some n) :
    Value.bounded (.whole n) = .ok (.whole n) := by
  have hsize : n.natAbs.size ≤ maxBits := hsmall e (self_mem_parts e) n h
  exact if_pos (fits_whole_iff.2 hsize)

section

variable {room : Nat} {e f : Expr} {op : Op}

theorem evalWithin_binary (hop : op = .add ∨ op = .sub ∨ op = .mul ∨ op = .mod)
    (hmoduli : (binary op e f).ModuliNonzero) (hsmall : (binary op e f).IsSmall)
    (he : ∃ m, e.value? = some m ∧ e.evalWithin room = .ok (.whole m))
    (hf : ∃ n, f.value? = some n ∧ f.evalWithin room = .ok (.whole n)) :
    ∃ k, (binary op e f).value? = some k ∧
      (binary op e f).evalWithin (room + 1) = .ok (.whole k) := by
  obtain ⟨m, hm, hevalm⟩ := he
  obtain ⟨n, hn, hevaln⟩ := hf
  obtain ⟨k, hk⟩ : ∃ k, op.onIntegers? m n = some k := by
    rcases hop with rfl | rfl | rfl | rfl
    · exact ⟨m + n, rfl⟩
    · exact ⟨m - n, rfl⟩
    · exact ⟨m * n, rfl⟩
    · have hn' : n ≠ 0 := by
        rintro rfl
        exact hmoduli e f (self_mem_parts _) hn
      exact ⟨m.fmod n, if_neg hn'⟩
  have hvalue : (binary op e f).value? = some k := by
    rw [value?, hm, hn]
    exact hk
  have hpow : op ≠ .pow := by rcases hop with rfl | rfl | rfl | rfl <;> decide
  have hwholeDiv : op ≠ .wholeDiv := by rcases hop with rfl | rfl | rfl | rfl <;> decide
  refine ⟨k, hvalue, ?_⟩
  rw [evalWithin]
  · rw [hevalm, hevaln, ok_bind, ok_bind, apply_of_onIntegers hpow hk, ok_bind,
      bounded_of_isSmall hsmall hvalue]
    rfl
  · exact hwholeDiv

/-- A sign in front of an expression is as good as one more operator. -/
theorem evalWithin_negative (hsmall : (negative e).IsSmall)
    (he : ∃ n, e.value? = some n ∧ e.evalWithin room = .ok (.whole n)) :
    ∃ n, (negative e).value? = some n ∧ (negative e).evalWithin (room + 1) = .ok (.whole n) := by
  obtain ⟨n, hn, heval⟩ := he
  have hvalue : (negative e).value? = some (-n) := by rw [value?, hn]; rfl
  refine ⟨-n, hvalue, ?_⟩
  rw [evalWithin, heval, ok_bind, Value.negate, bounded_of_isSmall hsmall hvalue]
  rfl

theorem evalWithin_positive (hsmall : (positive e).IsSmall)
    (he : ∃ n, e.value? = some n ∧ e.evalWithin room = .ok (.whole n)) :
    ∃ n, (positive e).value? = some n ∧ (positive e).evalWithin (room + 1) = .ok (.whole n) := by
  obtain ⟨n, hn, heval⟩ := he
  refine ⟨n, hn, ?_⟩
  rw [evalWithin, heval, ok_bind, bounded_of_isSmall hsmall hn]
  rfl

end

/-- An expression without powers has a value if the limits are kept. -/
theorem evalWithin_of_isSmall {l : Level} {ts : List Token} {e : Expr} (hspells : Spells l ts e)
    (hpower : .power ∉ ts) (hmoduli : e.ModuliNonzero) (hsmall : e.IsSmall) {room : Nat}
    (hroom : e.height ≤ room) :
    ∃ n, e.value? = some n ∧ e.evalWithin room = .ok (.whole n) := by
  induction hspells generalizing room with
  | number n =>
    obtain ⟨room, rfl⟩ := Nat.exists_eq_add_one.2 (show 0 < room from hroom)
    refine ⟨n, rfl, ?_⟩
    rw [evalWithin, bounded_of_isSmall hsmall rfl]
    rfl
  | group _ ih => exact ih (fun h ↦ hpower (by simp [h])) hmoduli hsmall hroom
  | atom _ ih | power _ ih | unary _ ih | product _ ih => exact ih hpower hmoduli hsmall hroom
  | positive _ ih =>
    rw [height] at hroom
    obtain ⟨room, rfl⟩ := Nat.exists_eq_add_one.2 (show 0 < room by omega)
    refine evalWithin_positive hsmall (ih ?_ ?_ ?_ (by omega))
    · exact fun h ↦ hpower (List.mem_cons_of_mem _ h)
    · exact fun a b hp ↦ hmoduli a b (List.mem_cons_of_mem _ hp)
    · exact fun p hp ↦ hsmall p (List.mem_cons_of_mem _ hp)
  | negative _ ih =>
    rw [height] at hroom
    obtain ⟨room, rfl⟩ := Nat.exists_eq_add_one.2 (show 0 < room by omega)
    refine evalWithin_negative hsmall (ih ?_ ?_ ?_ (by omega))
    · exact fun h ↦ hpower (List.mem_cons_of_mem _ h)
    · exact fun a b hp ↦ hmoduli a b (List.mem_cons_of_mem _ hp)
    · exact fun p hp ↦ hsmall p (List.mem_cons_of_mem _ hp)
  | raise _ _ _ _ => exact absurd (by simp) hpower
  | mul _ _ ih ih' | mod _ _ ih ih' | add _ _ ih ih' | sub _ _ ih ih' =>
    rw [height] at hroom
    obtain ⟨room, rfl⟩ := Nat.exists_eq_add_one.2 (show 0 < room by omega)
    refine evalWithin_binary (by decide) hmoduli hsmall (ih ?_ ?_ ?_ (by omega))
      (ih' ?_ ?_ ?_ (by omega))
    · exact fun h ↦ hpower (List.mem_append_left _ h)
    · exact fun a b hp ↦ hmoduli a b (mem_parts_binary.2 (.inr (.inl hp)))
    · exact fun p hp ↦ hsmall p (mem_parts_binary.2 (.inr (.inl hp)))
    · exact fun h ↦ hpower (List.mem_append_right _ (List.mem_cons_of_mem _ h))
    · exact fun a b hp ↦ hmoduli a b (mem_parts_binary.2 (.inr (.inr hp)))
    · exact fun p hp ↦ hsmall p (mem_parts_binary.2 (.inr (.inr hp)))

/-! ### Parentheses -/

/-- Tokens of one expression after another open and close parentheses as their parts do. -/
theorem foldlM_depthAfter?_append {ts us : List Token} {t : Token} {depth : Nat}
    (ht : ∀ depth, depthAfter? depth t = some depth)
    (hts : ts.foldlM depthAfter? depth = some depth)
    (hus : us.foldlM depthAfter? depth = some depth) :
    (ts ++ t :: us).foldlM depthAfter? depth = some depth := by
  rw [List.foldlM_append, hts]
  show (t :: us).foldlM depthAfter? depth = _
  rw [List.foldlM_cons, ht]
  exact hus

theorem Spells.count {l : Level} {ts : List Token} {e : Expr} (h : Spells l ts e) :
    ts.count .opening = ts.count .closing := by
  induction h with
  | number n => rfl
  | group _ ih => simp [ih]
  | atom _ ih | power _ ih | unary _ ih | product _ ih => exact ih
  | positive _ ih | negative _ ih => simpa using ih
  | raise _ _ ih ih' | mul _ _ ih ih' | mod _ _ ih ih' | add _ _ ih ih' | sub _ _ ih ih' =>
    simp [ih, ih']

/-- The lexer sees all parentheses closed again, and never too many open. -/
theorem Spells.depth {l : Level} {ts : List Token} {e : Expr} (h : Spells l ts e) {depth : Nat}
    (hopen : ∀ us, us <+: ts → depth + us.count .opening ≤ us.count .closing + maxOpen) :
    ts.foldlM depthAfter? depth = some depth := by
  induction h generalizing depth with
  | number n => rfl
  | @group ts e _ ih =>
    have hfirst : depth < maxOpen := by
      have := hopen [.opening] ⟨ts ++ [.closing], rfl⟩
      simpa [Nat.succ_le_iff] using this
    have hinner : ts.foldlM depthAfter? (depth + 1) = some (depth + 1) := by
      refine ih fun us hus ↦ ?_
      have := hopen (.opening :: us)
        (List.cons_prefix_cons.2 ⟨rfl, hus.trans (List.prefix_append ..)⟩)
      rw [List.count_cons_self, List.count_cons_of_ne (by decide)] at this
      omega
    rw [List.cons_append, List.foldlM_cons, depthAfter?, if_pos hfirst]
    show (ts ++ [Token.closing]).foldlM depthAfter? (depth + 1) = _
    rw [List.foldlM_append, hinner]
    rfl
  | atom _ ih | power _ ih | unary _ ih | product _ ih => exact ih hopen
  | positive _ ih | negative _ ih =>
    refine ih fun us hus ↦ ?_
    have := hopen (_ :: us) (List.cons_prefix_cons.2 ⟨rfl, hus⟩)
    simpa using this
  | raise he _ ih ih' | mul he _ ih ih' | mod he _ ih ih' | add he _ ih ih' | sub he _ ih ih' =>
    refine foldlM_depthAfter?_append (fun _ ↦ rfl) (ih fun us hus ↦ ?_) (ih' fun us hus ↦ ?_)
    · exact hopen us (hus.trans (List.prefix_append ..))
    · have hcount := he.count
      have := hopen (_ ++ _ :: us)
        ((List.prefix_append_right_inj _).2 (List.cons_prefix_cons.2 ⟨rfl, hus⟩))
      simp only [List.count_append, List.count_cons, beq_iff_eq, reduceCtorEq, if_false] at this
      omega

/-! ### The calculator -/

theorem Reads.isExact {cs : List Char} {ts : List Token} (h : Reads cs ts) : IsExact ts := by
  induction h with
  | nil => simp [IsExact]
  | space _ ih => exact ih
  | symbol hsymbol _ ih =>
    refine List.forall_mem_cons.2 ⟨?_, ih⟩
    rcases symbol?_cases hsymbol with ⟨-, rfl⟩ | ⟨-, rfl⟩ | ⟨-, rfl⟩ | ⟨-, rfl⟩ | ⟨-, rfl⟩ <;> rfl
  | star _ _ ih | power _ ih | number _ _ _ ih => exact List.forall_mem_cons.2 ⟨rfl, ih⟩

/-- The numbers among the tokens are parts of the expression. -/
theorem Spells.mem_parts {l : Level} {ts : List Token} {e : Expr} (h : Spells l ts e) {n : Nat}
    (hn : .whole n ∈ ts) : .whole n ∈ e.parts := by
  induction h with
  | number m => simpa [parts] using hn
  | group _ ih => exact ih (by simpa using hn)
  | atom _ ih | power _ ih | unary _ ih | product _ ih => exact ih hn
  | positive _ ih | negative _ ih => exact List.mem_cons_of_mem _ (ih (by simpa using hn))
  | raise _ _ ih ih' | mul _ _ ih ih' | mod _ _ ih ih' | add _ _ ih ih' | sub _ _ ih ih' =>
    rcases List.mem_append.1 hn with hn | hn
    · exact mem_parts_binary.2 (.inr (.inl (ih hn)))
    · exact mem_parts_binary.2 (.inr (.inr (ih' (by simpa using hn))))

theorem isAllowed_of_isPlain {c : Char} (h : isPlain c = true) : isAllowed c = true :=
  of_isPlain isAllowed (by decide) h

/-- When there is a result. -/
theorem calculate_eq_ok {s : String} {ts : List Token} {e : Expr} {v : Value}
    (hplain : ∀ c ∈ s.toList, isPlain c = true) (hblank : allBlank s = false)
    (htokens : tokensFrom 0 (trim s.toList) = (ts, true)) (hlevels : overflows ts true = false)
    (hparse : ofTokens? ts = some e) (hheight : e.height ≤ maxDepth)
    (heval : e.evalWithin maxDepth = .ok v) : calculate s = .ok v.text := by
  have hallowed : s.toList.all isAllowed = true :=
    List.all_eq_true.2 fun c hc ↦ isAllowed_of_isPlain (hplain c hc)
  have hlow : ¬ maxHeight < e.height := by
    rw [maxDepth] at hheight
    rw [maxHeight]
    omega
  have hvalue : e.eval = .ok v := by rw [Expr.eval, if_neg hlow, heval]
  rw [calculate, hblank, hallowed, htokens]
  simp only [hlevels, hparse, hvalue, if_true]
  show Halt.ofFault v.write = _
  rw [write_of_fits (fits_of_evalWithin heval)]
  rfl

/-- The calculator on whole numbers. It gives a result only for sentences of the grammar. Where it
gives one and no exponent is negative, this is the value of the sentence; and it does give one if
there are no powers, no modulus is zero, and the limits are kept. -/
theorem calculate_of_isPlain (s : String) (hplain : ∀ c ∈ s.toList, isPlain c = true) :
    (∀ r, calculate s = .ok r → ∃ ts e, Reads s.toList ts ∧ Spells .sum ts e) ∧
      ∀ ts e, Reads s.toList ts → Spells .sum ts e →
        (∀ r, calculate s = .ok r → e.ExponentsNonneg →
          ∃ n, e.value? = some n ∧ r = showInt n) ∧
        (.power ∉ ts → e.ModuliNonzero → e.IsSmall → IsShallow ts e →
          ∃ n, e.value? = some n ∧ calculate s = .ok (showInt n)) := by
  have htrim : ∀ c ∈ trim s.toList, isPlain c = true := by
    obtain ⟨front, back, htext, -⟩ := exists_blank_append_trim s.toList
    intro c hc
    refine hplain c ?_
    rw [htext]
    simp [hc]
  refine ⟨fun r hr ↦ ?_, fun ts e hreads hspells ↦ ⟨fun r hr hexponents ↦ ?_, ?_⟩⟩
  · obtain ⟨ts, e, v, htokens, hparse, heval, -⟩ := of_calculate_eq_ok hr
    have hreads := (reads_trim_iff hplain).1 (reads_of_tokensFrom htrim htokens)
    exact ⟨ts, e, hreads,
      spells_of_ofTokens? hreads.isExact (isMeaningful_of_evalWithin heval) hparse⟩
  · obtain ⟨us, f, v, htokens, hparse, heval, rfl⟩ := of_calculate_eq_ok hr
    obtain rfl : us = ts := ((reads_trim_iff hplain).2 hreads).lexed.only 0 us htokens
    obtain rfl : e = f := Option.some.inj (hspells.ofTokens?.symm.trans hparse)
    obtain ⟨n, rfl, hn⟩ := value_of_evalWithin hspells hexponents heval
    exact ⟨n, hn, rfl⟩
  · intro hpower hmoduli hsmall hshallow
    obtain ⟨n, hn, heval⟩ := evalWithin_of_isSmall hspells hpower hmoduli hsmall hshallow.height
    have hdepth : (ts.foldlM depthAfter? 0).isSome := by
      rw [hspells.depth fun us hus ↦ by simpa using hshallow.openings us hus]
      rfl
    have hshort (m : Nat) (hm : .whole m ∈ ts) : m.size ≤ 10000 :=
      hsmall (.whole m) (hspells.mem_parts hm) m rfl
    have htokens := ((reads_trim_iff hplain).2 hreads).lexed.found 0 hdepth hshort
    have hblank : allBlank s = false := by
      by_contra hall
      have hempty := (trim_eq_nil_iff s.toList).2 (by simpa [allBlank] using hall)
      rw [hempty, tokensFrom] at htokens
      exact hspells.ne_nil (Prod.mk.inj htokens).1.symm
    exact ⟨n, hn, calculate_eq_ok hplain hblank htokens hshallow.levels hspells.ofTokens?
      hshallow.height heval⟩

/-- An expression with a remainder, a sign and parentheses. -/
def productText : String := " 7%-3 *(1 - 4)"

/-- Its tokens. -/
def productTokens : List Token :=
  [.whole 7, .percent, .minus, .whole 3, .star, .opening, .whole 1, .minus, .whole 4, .closing]

/-- The expression that they spell. -/
def productExpr : Expr :=
  .binary .mul (.binary .mod (.whole 7) (.negative (.whole 3)))
    (.binary .sub (.whole 1) (.whole 4))

theorem reads_digit {c : Char} {d : Nat} (hc : asciiDigit? c = some d) {cs : List Char}
    (hcs : EndsNumber cs) {ts : List Token} (h : Reads cs ts) :
    Reads (c :: cs) (.whole d :: ts) := by
  have hnumeral : IsNumeral [d] := ⟨by simpa using lt_ten_of_asciiDigit? hc, by simp, by simp⟩
  have hread := Reads.number hnumeral hcs h
  rwa [List.map_singleton, digitChar_of_asciiDigit? hc, ofDigits, List.foldl_cons, List.foldl_nil,
    Nat.mul_zero, Nat.zero_add] at hread

theorem reads_productText : Reads productText.toList productTokens := by
  have htext : productText.toList =
      [' ', '7', '%', '-', '3', ' ', '*', '(', '1', ' ', '-', ' ', '4', ')'] := by decide
  have hends {c : Char} {cs : List Char} (hc : asciiDigit? c = none) : EndsNumber (c :: cs) := by
    intro c' hc'
    cases hc'
    exact hc
  have hgroup : Reads ['(', '1', ' ', '-', ' ', '4', ')']
      [.opening, .whole 1, .minus, .whole 4, .closing] := by
    refine .symbol rfl (reads_digit rfl (hends rfl) (.space (.symbol rfl (.space ?_))))
    exact reads_digit rfl (hends rfl) (.symbol rfl .nil)
  rw [htext]
  refine .space (reads_digit rfl (hends rfl) (.symbol rfl (.symbol rfl ?_)))
  exact reads_digit rfl (hends rfl) (.space (.star (by decide) hgroup))

theorem spells_productTokens : Spells .sum productTokens productExpr := by
  have hnumber (n : Nat) : Spells .unary [.whole n] (.whole n) := .power (.atom (.number n))
  have hleft : Spells .product [.whole 7, .percent, .minus, .whole 3]
      (.binary .mod (.whole 7) (.negative (.whole 3))) :=
    .mod (.unary (hnumber 7)) (.negative (hnumber 3))
  have hright : Spells .sum [.whole 1, .minus, .whole 4] (.binary .sub (.whole 1) (.whole 4)) :=
    .sub (.product (.unary (hnumber 1))) (.unary (hnumber 4))
  exact .product (.mul hleft (.power (.atom (.group hright))))

theorem isShallow_productExpr : IsShallow productTokens productExpr where
  openings us hus := calc
    us.count .opening ≤ us.length := List.count_le_length
    _ ≤ productTokens.length := hus.length_le
    _ ≤ us.count .closing + maxOpen := Nat.le_add_left_of_le (by decide)
  levels := by decide
  height := by decide

theorem calculate_productText :
    (∀ c ∈ productText.toList, isPlain c = true) ∧ .power ∉ productTokens ∧
      productExpr.ModuliNonzero ∧ productExpr.IsSmall ∧ IsShallow productTokens productExpr ∧
      calculate productText = .ok (showInt 6) := by
  have hplain : ∀ c ∈ productText.toList, isPlain c = true := List.all_eq_true.1 (by decide)
  have hpower : .power ∉ productTokens := by decide
  have hmoduli : productExpr.ModuliNonzero := by
    intro a b hmem
    obtain ⟨-, rfl⟩ : a = .whole 7 ∧ b = .negative (.whole 3) := by
      simpa [productExpr, parts] using hmem
    decide
  have hsmall : productExpr.IsSmall := by
    have hvalues : ∀ p ∈ productExpr.parts, ∀ n ∈ p.value?, n.natAbs < 2 ^ 3 := by decide
    intro p hp n hn
    exact (Nat.size_le.2 (hvalues p hp n hn)).trans (by decide)
  obtain ⟨-, hspec⟩ := calculate_of_isPlain productText hplain
  obtain ⟨-, hresult⟩ := hspec productTokens productExpr reads_productText spells_productTokens
  obtain ⟨n, hn, hcalculate⟩ := hresult hpower hmoduli hsmall isShallow_productExpr
  obtain rfl : 6 = n := Option.some.inj hn
  exact ⟨hplain, hpower, hmoduli, hsmall, isShallow_productExpr, hcalculate⟩

end Organizer.Arithmetic
