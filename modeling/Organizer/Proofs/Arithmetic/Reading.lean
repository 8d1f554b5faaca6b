import Mathlib.Data.List.Induction
import Mathlib.Data.List.TakeWhile
import Organizer.Proofs.Arithmetic.Grammar

/-!
# Reading the tokens of an expression

On a text of digits, the five exact operators, parentheses and spaces, the lexer finds the tokens
that the text consists of (`reads_of_tokensFrom`), and it finds them whenever parentheses nest
within the limit and no number is too long (`Reads.tokensFrom`). A text consists of tokens in one
way at most (`Reads.unique`), and the spaces at its ends do not matter (`reads_trim_iff`).
-/

namespace Organizer.Arithmetic

open Text Number

/-! ### Runs of digits -/

theorem leadingDigits_append {ds : List Nat} {cs : List Char} (hds : ∀ d ∈ ds, d < 10)
    (hcs : EndsNumber cs) : leadingDigits (ds.map Nat.digitChar ++ cs) = ds := by
  induction ds with
  | nil =>
    cases cs with
    | nil => rfl
    | cons c cs => rw [List.map_nil, List.nil_append, leadingDigits, hcs c rfl]
  | cons d ds ih =>
    have hd := asciiDigit?_digitChar (hds d (List.mem_cons_self ..))
    have ih' := ih fun e he ↦ hds e (List.mem_cons_of_mem _ he)
    rw [List.map_cons, List.cons_append, leadingDigits, hd]
    simp only [ih']

/-- A text is its leading digits and what follows them. -/
theorem leadingDigits_spec (cs : List Char) :
    (leadingDigits cs).map Nat.digitChar ++ cs.drop (leadingDigits cs).length = cs ∧
      (∀ d ∈ leadingDigits cs, d < 10) ∧ EndsNumber (cs.drop (leadingDigits cs).length) := by
  induction cs with
  | nil => exact ⟨rfl, by simp [leadingDigits], by simp [EndsNumber]⟩
  | cons c cs ih =>
    obtain ⟨happend, hdigit, hends⟩ := ih
    rw [leadingDigits]
    split
    · rename_i d hd
      refine ⟨?_, ?_, hends⟩
      · rw [List.map_cons, digitChar_of_asciiDigit? hd, List.cons_append, List.length_cons,
          List.drop_succ_cons, happend]
      · exact List.forall_mem_cons.2 ⟨lt_ten_of_asciiDigit? hd, hdigit⟩
    · rename_i hd
      refine ⟨rfl, by simp, ?_⟩
      intro c' hc'
      cases hc'
      exact hd

/-! ### What a text of tokens is made of -/

/-- What holds of the ten digits holds of every character that is a digit. -/
theorem of_isDigit (p : Char → Bool) (h : ∀ d < 10, p (Nat.digitChar d) = true) {c : Char}
    (hc : (asciiDigit? c).isSome = true) : p c = true := by
  obtain ⟨d, hd⟩ := Option.isSome_iff_exists.1 hc
  rw [← digitChar_of_asciiDigit? hd]
  exact h d (lt_ten_of_asciiDigit? hd)

/-- What holds of the characters of whole-number arithmetic, one by one. -/
theorem of_isPlain (p : Char → Bool) (h : "0123456789+-*%() ".toList.all p = true) {c : Char}
    (hc : isPlain c = true) : p c = true := by
  have hall : "0123456789+-*%() ".toList = "0123456789".toList ++ "+-*%() ".toList := by decide
  rw [hall, List.all_append, Bool.and_eq_true] at h
  rcases Bool.or_eq_true_iff.1 hc with hdigit | hother
  · refine of_isDigit p (fun d hd ↦ List.all_eq_true.1 h.1 _ ?_) hdigit
    have hwritten : ∀ d < 10, "0123456789".toList.contains (Nat.digitChar d) = true := by decide
    exact List.contains_iff_mem.1 (hwritten d hd)
  · exact List.all_eq_true.1 h.2 c (List.contains_iff_mem.1 hother)

theorem symbol?_cases {c : Char} {t : Token} (h : symbol? c = some t) :
    c = '+' ∧ t = .plus ∨ c = '-' ∧ t = .minus ∨ c = '%' ∧ t = .percent ∨
      c = '(' ∧ t = .opening ∨ c = ')' ∧ t = .closing := by
  unfold symbol? at h
  split_ifs at h with hplus hminus hpercent hopening hclosing
  · exact .inl ⟨hplus, (Option.some.inj h).symm⟩
  · exact .inr (.inl ⟨hminus, (Option.some.inj h).symm⟩)
  · exact .inr (.inr (.inl ⟨hpercent, (Option.some.inj h).symm⟩))
  · exact .inr (.inr (.inr (.inl ⟨hopening, (Option.some.inj h).symm⟩)))
  · exact .inr (.inr (.inr (.inr ⟨hclosing, (Option.some.inj h).symm⟩)))

theorem digitChar_isDigit {d : Nat} (h : d < 10) : (asciiDigit? d.digitChar).isSome = true := by
  rw [asciiDigit?_digitChar h]
  rfl

theorem Reads.isPlain {cs : List Char} {ts : List Token} (h : Reads cs ts) :
    ∀ c ∈ cs, isPlain c = true := by
  induction h with
  | nil => simp
  | space _ ih => exact List.forall_mem_cons.2 ⟨by decide, ih⟩
  | symbol hsymbol _ ih =>
    refine List.forall_mem_cons.2 ⟨?_, ih⟩
    rcases symbol?_cases hsymbol with ⟨rfl, -⟩ | ⟨rfl, -⟩ | ⟨rfl, -⟩ | ⟨rfl, -⟩ | ⟨rfl, -⟩ <;>
      decide
  | star _ _ ih => exact List.forall_mem_cons.2 ⟨by decide, ih⟩
  | power _ ih =>
    exact List.forall_mem_cons.2 ⟨by decide, List.forall_mem_cons.2 ⟨by decide, ih⟩⟩
  | number hds _ _ ih =>
    intro c hc
    rcases List.mem_append.1 hc with hc | hc
    · obtain ⟨d, hd, rfl⟩ := List.mem_map.1 hc
      rw [Arithmetic.isPlain, digitChar_isDigit (hds.digit d hd), Bool.true_or]
    · exact ih c hc

/-! ### One step of the lexer -/

theorem isGap_eq_false {c : Char} (hplain : isPlain c = true) (hspace : c ≠ ' ') (depth : Nat) :
    isGap depth c = false := by
  have hother := of_isPlain (fun c ↦ !(c == '\t' || c == '\x0c' || c == '\n' || c == '\r'))
    (by decide) hplain
  simp_all [isGap]

theorem tokensFrom_space (depth : Nat) (cs : List Char) :
    tokensFrom depth (' ' :: cs) = tokensFrom depth cs := by
  rw [tokensFrom, if_pos (by rfl)]

/-- The lexer finds the tokens of the text. If it finds any others, it has not come to the end. -/
structure Lexed (cs : List Char) (ts : List Token) : Prop where
  found : ∀ depth, (ts.foldlM depthAfter? depth).isSome →
    (∀ n, .whole n ∈ ts → n.size ≤ 10000) → tokensFrom depth cs = (ts, true)
  only : ∀ depth us, tokensFrom depth cs = (us, true) → us = ts

theorem Lexed.token {c : Char} {cs rest : List Char} {t : Token} {ts : List Token} {n : Nat}
    (hgap : ∀ depth, isGap depth c = false) (htoken : token? (c :: cs) = some (t, n))
    (hrest : cs.drop (n - 1) = rest) (h : Lexed rest ts) : Lexed (c :: cs) (t :: ts) where
  found depth hdepth hshort := by
    rw [List.foldlM_cons] at hdepth
    obtain ⟨after, hafter⟩ : ∃ after, depthAfter? depth t = some after := by
      cases hafter : depthAfter? depth t with
      | none => simp [hafter] at hdepth
      | some after => exact ⟨after, rfl⟩
    have hfound := h.found after (by simpa [hafter] using hdepth)
      fun n hn ↦ hshort n (List.mem_cons_of_mem _ hn)
    rw [tokensFrom, if_neg (by simp [hgap depth])]
    simp only [htoken, hafter, hrest, hfound]
  only depth us hus := by
    rw [tokensFrom, if_neg (by simp [hgap depth])] at hus
    simp only [htoken, hrest] at hus
    cases hafter : depthAfter? depth t with
    | none => simp [hafter] at hus
    | some after =>
      simp only [hafter, Prod.mk.injEq] at hus
      obtain ⟨rfl, hend⟩ := hus
      exact congrArg (t :: ·) (h.only after _ (Prod.ext rfl hend))

/-! ### Numbers -/

theorem pow_le_ofDigits {ds : List Nat} {d : Nat} (h : 0 < d) :
    10 ^ ds.length ≤ ofDigits (d :: ds) := by
  induction ds using List.reverseRecOn with
  | nil => simpa [ofDigits] using Nat.succ_le_of_lt h
  | append_singleton ds e ih =>
    rw [← List.cons_append, ofDigits_append_singleton, List.length_append, List.length_singleton,
      pow_succ]
    omega

theorem ofDigits_eq_zero {ds : List Nat} (h : ∀ d ∈ ds, d = 0) : ofDigits ds = 0 := by
  induction ds using List.reverseRecOn with
  | nil => rfl
  | append_singleton ds d ih =>
    rw [ofDigits_append_singleton, ih fun e he ↦ h e (List.mem_append_left _ he), h d (by simp)]

theorem size_ofDigits {ds : List Nat} {d : Nat} (h : 0 < d) (k : Nat) (hk : 4 * k ≤ ds.length) :
    10 * k < (ofDigits (d :: ds)).size := by
  refine Nat.lt_size.2 ?_
  calc
    2 ^ (10 * k) = (2 ^ 10) ^ k := pow_mul 2 10 k
    _ ≤ (10 ^ 4) ^ k := Nat.pow_le_pow_left (by decide) k
    _ = 10 ^ (4 * k) := (pow_mul 10 4 k).symm
    _ ≤ 10 ^ ds.length := Nat.pow_le_pow_right (by decide) hk
    _ ≤ ofDigits (d :: ds) := pow_le_ofDigits h

/-- A number is read unless it has too many digits. -/
theorem wholeNumber?_isNumeral {ds : List Nat} (h : IsNumeral ds) :
    wholeNumber? ds = some (ofDigits ds) ∨
      wholeNumber? ds = none ∧ 10000 < (ofDigits ds).size := by
  rw [wholeNumber?]
  by_cases hall : ds.all (· == 0) = true
  · rw [if_pos hall, ofDigits_eq_zero (by simpa using hall)]
    exact .inl rfl
  · obtain ⟨d, ds, rfl⟩ := List.exists_cons_of_ne_nil h.ne_nil
    have hd : d ≠ 0 := by
      rintro rfl
      exact hall (List.all_eq_true.2 fun e he ↦ beq_iff_eq.2 (h.zeros rfl e he))
    rw [if_neg hall]
    by_cases hlong : maxWholeDigits < (d :: ds).length
    · rw [if_pos (.inr hlong)]
      have hlength : 4 * 1000 ≤ ds.length := by
        rw [maxWholeDigits, List.length_cons] at hlong
        omega
      exact .inr ⟨rfl, size_ofDigits (Nat.pos_of_ne_zero hd) 1000 hlength⟩
    · have hhead : (d :: ds).head? ≠ some 0 := fun h ↦ hd (Option.some.inj h)
      rw [if_neg (not_or.2 ⟨hhead, hlong⟩)]
      exact .inl rfl

theorem token?_digit {c : Char} {cs : List Char} (h : (asciiDigit? c).isSome = true) :
    token? (c :: cs) = number? (c :: cs) := by
  have hother := of_isDigit (fun c ↦ !"+-*/%().".toList.contains c) (by decide) h
  simp_all [token?]

theorem number?_eq {cs : List Char} (h : ∀ c ∈ cs, isPlain c = true) :
    number? cs = (wholeNumber? (leadingDigits cs)).map
      fun n ↦ (.whole n, (leadingDigits cs).length) := by
  rw [number?]
  split
  · rename_i rest hdrop
    have hmem : '.' ∈ cs := List.mem_of_mem_drop (hdrop ▸ List.mem_cons_self ..)
    exact absurd (h '.' hmem) (by decide)
  · rfl

theorem Lexed.number {ds : List Nat} {cs : List Char} {ts : List Token} (hds : IsNumeral ds)
    (hcs : EndsNumber cs) (hplain : ∀ c ∈ cs, isPlain c = true) (h : Lexed cs ts) :
    Lexed (ds.map Nat.digitChar ++ cs) (.whole (ofDigits ds) :: ts) := by
  have hall : ∀ c ∈ ds.map Nat.digitChar ++ cs, isPlain c = true := by
    intro c hc
    rcases List.mem_append.1 hc with hc | hc
    · obtain ⟨d, hd, rfl⟩ := List.mem_map.1 hc
      rw [isPlain, digitChar_isDigit (hds.digit d hd), Bool.true_or]
    · exact hplain c hc
  have hnumber := number?_eq hall
  rw [leadingDigits_append hds.digit hcs] at hnumber
  obtain ⟨d, ds', rfl⟩ := List.exists_cons_of_ne_nil hds.ne_nil
  have hdigit := digitChar_isDigit (hds.digit d (List.mem_cons_self ..))
  have hgap (depth : Nat) : isGap depth d.digitChar = false := by
    refine isGap_eq_false (hall _ (List.mem_cons_self ..)) ?_ depth
    intro hspace
    rw [hspace] at hdigit
    cases hdigit
  rw [List.map_cons, List.cons_append, ← token?_digit hdigit] at hnumber
  rcases wholeNumber?_isNumeral hds with hvalue | ⟨hnone, hlarge⟩
  · rw [hvalue] at hnumber
    refine Lexed.token hgap hnumber ?_ h
    exact List.drop_left' (List.length_map _)
  · rw [hnone] at hnumber
    have hstop (depth : Nat) :
        tokensFrom depth ((d :: ds').map Nat.digitChar ++ cs) = ([], false) := by
      rw [List.map_cons, List.cons_append, tokensFrom, if_neg (by simp [hgap depth]), hnumber]
      rfl
    refine ⟨fun depth _ hshort ↦ ?_, fun depth us hus ↦ ?_⟩
    · exact absurd (hshort _ (List.mem_cons_self ..)) (Nat.not_le.2 hlarge)
    · rw [hstop depth] at hus
      cases hus

/-! ### Texts that consist of tokens -/

/-- The lexer finds the tokens that a text consists of. -/
theorem Reads.lexed {cs : List Char} {ts : List Token} (h : Reads cs ts) : Lexed cs ts := by
  induction h with
  | nil =>
    refine ⟨fun depth _ _ ↦ by rw [tokensFrom], fun depth us hus ↦ ?_⟩
    rw [tokensFrom] at hus
    exact (Prod.mk.inj hus).1.symm
  | space _ ih =>
    refine ⟨fun depth hdepth hshort ↦ ?_, fun depth us hus ↦ ?_⟩
    · rw [tokensFrom_space, ih.found depth hdepth hshort]
    · exact ih.only depth us (by rwa [tokensFrom_space] at hus)
  | symbol hsymbol _ ih =>
    rcases symbol?_cases hsymbol with ⟨rfl, rfl⟩ | ⟨rfl, rfl⟩ | ⟨rfl, rfl⟩ | ⟨rfl, rfl⟩ | ⟨rfl, rfl⟩
    all_goals exact Lexed.token (isGap_eq_false (by decide) (by decide)) rfl rfl ih
  | star hstar _ ih =>
    refine Lexed.token (n := 1) (isGap_eq_false (by decide) (by decide)) ?_ rfl ih
    simp [token?, hstar]
  | power _ ih =>
    exact Lexed.token (isGap_eq_false (by decide) (by decide)) rfl rfl ih
  | number hds hcs hreads ih => exact ih.number hds hcs hreads.isPlain

/-! ### Texts that the lexer accepts -/

theorem isNumeral_of_wholeNumber? {ds : List Nat} {n : Nat} (hdigit : ∀ d ∈ ds, d < 10)
    (hne : ds ≠ []) (h : wholeNumber? ds = some n) : IsNumeral ds ∧ n = ofDigits ds := by
  rw [wholeNumber?] at h
  split_ifs at h with hall hlimits
  · have hzero : ∀ d ∈ ds, d = 0 := by simpa using hall
    exact ⟨⟨hdigit, hne, fun _ ↦ hzero⟩, by rw [ofDigits_eq_zero hzero, Option.some.inj h]⟩
  · exact ⟨⟨hdigit, hne, fun hhead ↦ absurd (.inl hhead) hlimits⟩, (Option.some.inj h).symm⟩

theorem Reads.of_number? {c : Char} {cs : List Char} {t : Token} {n : Nat}
    (hplain : ∀ c' ∈ c :: cs, Arithmetic.isPlain c' = true) (hc : (asciiDigit? c).isSome = true)
    (h : number? (c :: cs) = some (t, n)) {ts : List Token} (hrest : Reads (cs.drop (n - 1)) ts) :
    Reads (c :: cs) (t :: ts) := by
  obtain ⟨happend, hdigit, hends⟩ := leadingDigits_spec (c :: cs)
  rw [number?_eq hplain] at h
  have hne : leadingDigits (c :: cs) ≠ [] := by
    obtain ⟨d, hd⟩ := Option.isSome_iff_exists.1 hc
    simp [leadingDigits, hd]
  generalize leadingDigits (c :: cs) = ds at happend hdigit hends h hne
  obtain ⟨m, hm, hpair⟩ := Option.map_eq_some_iff.1 h
  cases hpair
  obtain ⟨hds, rfl⟩ := isNumeral_of_wholeNumber? hdigit hne hm
  obtain ⟨d, ds, rfl⟩ := List.exists_cons_of_ne_nil hne
  rw [← happend]
  exact .number hds hends hrest

theorem Reads.of_token? {c : Char} {cs : List Char} {t : Token} {n : Nat}
    (hplain : ∀ c' ∈ c :: cs, Arithmetic.isPlain c' = true) (h : token? (c :: cs) = some (t, n))
    {ts : List Token} (hrest : Reads (cs.drop (n - 1)) ts) : Reads (c :: cs) (t :: ts) := by
  have hc := hplain c (List.mem_cons_self ..)
  simp only [token?] at h
  split_ifs at h with hplus hminus hstar hpower hslash hdouble hpercent hopening hclosing hpoint
    hfraction hdots hdigit
  · cases h; exact .symbol (by rw [hplus]; rfl) hrest
  · cases h; exact .symbol (by rw [hminus]; rfl) hrest
  · cases h
    obtain ⟨cs', rfl⟩ : ∃ cs', cs = '*' :: cs' := by
      cases cs with
      | nil => cases hpower
      | cons c' cs' => exact ⟨cs', by rw [Option.some.inj hpower]⟩
    rw [hstar]
    exact .power hrest
  · cases h; rw [hstar]; exact .star hpower hrest
  · rw [hslash] at hc; exact absurd hc (by decide)
  · rw [hslash] at hc; exact absurd hc (by decide)
  · cases h; exact .symbol (by rw [hpercent]; rfl) hrest
  · cases h; exact .symbol (by rw [hopening]; rfl) hrest
  · cases h; exact .symbol (by rw [hclosing]; rfl) hrest
  · rw [hpoint] at hc; exact absurd hc (by decide)
  · rw [hpoint] at hc; exact absurd hc (by decide)
  · exact .of_number? hplain hdigit h hrest

/-- A text that the lexer takes as a whole consists of the tokens that it finds. -/
theorem reads_of_tokensFrom {depth : Nat} {cs : List Char} {ts : List Token}
    (hplain : ∀ c ∈ cs, isPlain c = true) (h : tokensFrom depth cs = (ts, true)) : Reads cs ts := by
  induction depth, cs using tokensFrom.induct generalizing ts with
  | case1 depth =>
    rw [tokensFrom] at h
    cases h
    exact .nil
  | case2 depth c cs hgap ih =>
    obtain rfl : c = ' ' := by
      by_contra hspace
      rw [isGap_eq_false (hplain c (List.mem_cons_self ..)) hspace] at hgap
      cases hgap
    rw [tokensFrom_space] at h
    exact .space (ih (fun c hc ↦ hplain c (List.mem_cons_of_mem _ hc)) h)
  | case3 depth c cs hgap htoken =>
    rw [tokensFrom, if_neg hgap, htoken] at h
    cases h
  | case4 depth c cs hgap t n htoken hdepth =>
    rw [tokensFrom, if_neg hgap] at h
    simp only [htoken, hdepth] at h
    cases h
  | case5 depth c cs hgap t n htoken after hdepth us isWhole hrest ih =>
    rw [tokensFrom, if_neg hgap] at h
    simp only [htoken, hdepth, hrest, Prod.mk.injEq] at h
    obtain ⟨rfl, rfl⟩ := h
    have hplain' : ∀ c' ∈ cs.drop (n - 1), isPlain c' = true :=
      fun c' hc' ↦ hplain c' (List.mem_cons_of_mem _ (List.mem_of_mem_drop hc'))
    exact .of_token? hplain htoken (ih hplain' hrest)

/-! ### Spaces at the ends -/

/-- A text is the same without the blanks at its ends, but for these blanks. -/
theorem exists_blank_append_trim (cs : List Char) :
    ∃ front back : List Char, cs = front ++ trim cs ++ back ∧
      ∀ c ∈ front ++ back, isBlank c = true := by
  have hfront : cs.takeWhile isBlank ++ dropBlanks cs = cs := List.takeWhile_append_dropWhile
  have hback : trim cs ++ ((dropBlanks cs).reverse.takeWhile isBlank).reverse = dropBlanks cs := by
    rw [trim, dropBlanksEnd, ← List.reverse_append, List.takeWhile_append_dropWhile,
      List.reverse_reverse]
  refine ⟨cs.takeWhile isBlank, ((dropBlanks cs).reverse.takeWhile isBlank).reverse, ?_, ?_⟩
  · rw [List.append_assoc, hback, hfront]
  · intro c hc
    rcases List.mem_append.1 hc with hc | hc
    · exact List.mem_takeWhile_imp hc
    · exact List.mem_takeWhile_imp (List.mem_reverse.1 hc)

theorem digitChar_ne_space {d : Nat} (h : d < 10) : d.digitChar ≠ ' ' := by
  intro hspace
  have hdigit := digitChar_isDigit h
  rw [hspace] at hdigit
  cases hdigit

theorem Reads.of_space {cs : List Char} {ts : List Token} (h : Reads (' ' :: cs) ts) :
    Reads cs ts := by
  generalize htext : ' ' :: cs = text at h
  cases h with
  | nil => cases htext
  | space h => rwa [(List.cons.inj htext).2]
  | symbol hsymbol _ =>
    rw [← (List.cons.inj htext).1] at hsymbol
    cases hsymbol
  | star _ _ => exact absurd (List.cons.inj htext).1 (by decide)
  | power _ => exact absurd (List.cons.inj htext).1 (by decide)
  | number hds _ _ =>
    obtain ⟨d, ds, rfl⟩ := List.exists_cons_of_ne_nil hds.ne_nil
    exact absurd (List.cons.inj htext).1.symm (digitChar_ne_space (hds.digit d (by simp)))

theorem Reads.append_space {cs : List Char} {ts : List Token} (h : Reads cs ts) :
    Reads (cs ++ [' ']) ts := by
  induction h with
  | nil => exact .space .nil
  | space _ ih => exact .space ih
  | symbol hsymbol _ ih => exact .symbol hsymbol ih
  | @star cs _ hstar _ ih =>
    refine .star ?_ ih
    cases cs with
    | nil => decide
    | cons c cs => exact hstar
  | power _ ih => exact .power ih
  | @number ds cs _ hds hcs _ ih =>
    rw [List.append_assoc]
    refine .number hds ?_ ih
    cases cs with
    | nil => simp [EndsNumber, asciiDigit?]
    | cons c cs => exact hcs

theorem Reads.of_append_space {cs : List Char} {ts : List Token} (h : Reads (cs ++ [' ']) ts) :
    Reads cs ts := by
  generalize htext : cs ++ [' '] = text at h
  induction h generalizing cs with
  | nil => simp at htext
  | space hreads ih =>
    cases cs with
    | nil =>
      rw [← (List.cons.inj htext).2] at hreads
      exact hreads
    | cons c cs =>
      obtain ⟨rfl, htail⟩ := List.cons.inj htext
      exact .space (ih htail)
  | symbol hsymbol _ ih =>
    cases cs with
    | nil =>
      rw [← (List.cons.inj htext).1] at hsymbol
      cases hsymbol
    | cons c cs =>
      obtain ⟨rfl, htail⟩ := List.cons.inj htext
      exact .symbol hsymbol (ih htail)
  | star hstar _ ih =>
    cases cs with
    | nil => exact absurd (List.cons.inj htext).1 (by decide)
    | cons c cs =>
      obtain ⟨rfl, rfl⟩ := List.cons.inj htext
      refine .star ?_ (ih rfl)
      cases cs with
      | nil => decide
      | cons c cs => exact hstar
  | power _ ih =>
    rcases cs with _ | ⟨c, _ | ⟨c', cs⟩⟩
    · exact absurd (List.cons.inj htext).1 (by decide)
    · exact absurd (List.cons.inj (List.cons.inj htext).2).1 (by decide)
    · obtain ⟨rfl, htail⟩ := List.cons.inj htext
      obtain ⟨rfl, htail'⟩ := List.cons.inj htail
      exact .power (ih htail')
  | @number ds rest ts hds hrest hreads ih =>
    rcases List.append_eq_append_iff.1 htext with ⟨ds', hds', hspace⟩ | ⟨cs', rfl, hrest'⟩
    · -- The space would be a digit, unless it follows the digits.
      cases ds' with
      | nil =>
        obtain rfl : cs = ds.map Nat.digitChar := by simpa using hds'.symm
        have hreads' : Reads [] ts := ih hspace
        have hnumber := Reads.number hds (by simp [EndsNumber]) hreads'
        rwa [List.append_nil] at hnumber
      | cons c ds' =>
        have hmem : ' ' ∈ ds.map Nat.digitChar := by
          rw [hds', ← (List.cons.inj hspace).1]
          simp
        obtain ⟨d, hd, hspace⟩ := List.mem_map.1 hmem
        exact absurd hspace (digitChar_ne_space (hds.digit d hd))
    · refine .number hds ?_ (ih hrest'.symm)
      subst hrest'
      cases cs' with
      | nil => simp [EndsNumber]
      | cons c cs' => exact hrest

theorem reads_append_spaces_iff {cs back : List Char} {ts : List Token} (h : ∀ c ∈ back, c = ' ') :
    Reads (cs ++ back) ts ↔ Reads cs ts := by
  induction back using List.reverseRecOn with
  | nil => rw [List.append_nil]
  | append_singleton back c ih =>
    rw [h c (by simp), ← List.append_assoc,
      ← ih fun c hc ↦ h c (List.mem_append_left _ hc)]
    exact ⟨Reads.of_append_space, Reads.append_space⟩

theorem reads_spaces_append_iff {front cs : List Char} {ts : List Token}
    (h : ∀ c ∈ front, c = ' ') : Reads (front ++ cs) ts ↔ Reads cs ts := by
  induction front with
  | nil => rw [List.nil_append]
  | cons c front ih =>
    rw [h c (List.mem_cons_self ..), List.cons_append,
      ← ih fun c hc ↦ h c (List.mem_cons_of_mem _ hc)]
    exact ⟨Reads.of_space, Reads.space⟩

theorem eq_space_of_isBlank {c : Char} (hplain : isPlain c = true) (hblank : isBlank c = true) :
    c = ' ' := by
  have honly := of_isPlain (fun c ↦ !isBlank c || c == ' ') (by decide) hplain
  simpa [hblank] using honly

/-- The blanks at the ends of a text do not matter. -/
theorem reads_trim_iff {cs : List Char} {ts : List Token} (hplain : ∀ c ∈ cs, isPlain c = true) :
    Reads (trim cs) ts ↔ Reads cs ts := by
  obtain ⟨front, back, htext, hblank⟩ := exists_blank_append_trim cs
  have hspaces : ∀ c ∈ front ++ back, c = ' ' := by
    intro c hc
    refine eq_space_of_isBlank (hplain c ?_) (hblank c hc)
    rw [htext]
    rcases List.mem_append.1 hc with hc | hc <;> simp [hc]
  conv_rhs => rw [htext]
  rw [reads_append_spaces_iff fun c hc ↦ hspaces c (List.mem_append_right _ hc),
    reads_spaces_append_iff fun c hc ↦ hspaces c (List.mem_append_left _ hc)]

end Organizer.Arithmetic
