import Organizer.Proofs.Json.Numbers

/-!
# Texts in files

A text that was written between quotes is read back character by character. An escaped character is
read off its escape and any other stands for itself (`readText?_escapeChar`); a written text has no
bare quote before its end, so that the reader stops at the right one (`readText?_writeText`).

Names that are no texts are written between quotes without being escaped. That is the same, because
none of their characters needs an escape (`Plain`).
-/

namespace Organizer.Json

open Number Text

/-! ### One character -/

theorem hexValue?_hexDigit {n : Nat} (h : n < 16) : hexValue? (hexDigit n) = some n := by
  revert n
  decide

/-- The escape of a control character spells its number. -/
theorem readEscape?_control {c : Char} (h : c.toNat < 0x20) (rest : List Char) :
    readEscape? ('u' :: '0' :: '0' :: hexDigit (c.toNat / 16) :: hexDigit c.toNat :: rest) =
      some (.char c, 5) := by
  have hhigh : hexValue? (hexDigit (c.toNat / 16)) = some (c.toNat / 16) :=
    hexValue?_hexDigit (by omega)
  have hlow : hexValue? (hexDigit c.toNat) = some (c.toNat % 16) := by
    have hdigit : hexDigit c.toNat = hexDigit (c.toNat % 16) := by
      rw [hexDigit, hexDigit, Nat.mod_mod]
    rw [hdigit]
    exact hexValue?_hexDigit (Nat.mod_lt _ (by decide))
  have hzero : hexValue? '0' = some 0 := rfl
  have hvalue : ((0 * 16 + 0) * 16 + c.toNat / 16) * 16 + c.toNat % 16 = c.toNat := by omega
  have hquad : hexQuad? ('0' :: '0' :: hexDigit (c.toNat / 16) :: hexDigit c.toNat :: rest) =
      some c.toNat := by
    simp only [hexQuad?, hzero, hhigh, hlow, hvalue, Option.bind_eq_bind, Option.bind_some,
      Option.pure_def]
  have hfirst : (decide (0xD800 ≤ c.toNat) && decide (c.toNat < 0xDC00)) = false := by
    simp
    omega
  have hpoint : pointOf c.toNat = .char c := by
    rw [pointOf, dif_neg (by omega), Char.ofNat_toNat]
  simp only [readEscape?, if_true, hquad, hfirst, Bool.false_eq_true, if_false, hpoint,
    Option.bind_eq_bind, Option.bind_some, Option.pure_def]

/-- A written character is read as itself. -/
theorem readText?_escapeChar (c : Char) (rest : List Char) :
    readText? (escapeChar c ++ rest) =
      (readText? rest).map fun (ps, rest) ↦ (.char c :: ps, rest) := by
  have hescape (d : Char) (hd : shortEscape? d = some c) (hu : d ≠ 'u') :
      readText? ('\\' :: d :: rest) =
        (readText? rest).map fun (ps, rest) ↦ (.char c :: ps, rest) := by
    rw [readText?, if_neg (by decide), if_pos rfl, readEscape?, if_neg hu, hd]
    rfl
  -- seven characters have an escape of two letters
  unfold escapeChar
  split
  · subst c
    exact hescape '"' rfl (by decide)
  split
  · subst c
    exact hescape '\\' rfl (by decide)
  split
  · subst c
    exact hescape 'n' rfl (by decide)
  split
  · subst c
    exact hescape 'r' rfl (by decide)
  split
  · subst c
    exact hescape 't' rfl (by decide)
  split
  · subst c
    exact hescape 'b' rfl (by decide)
  split
  · subst c
    exact hescape 'f' rfl (by decide)
  -- the other control characters are spelled by number, and the rest stands for itself
  split
  · rename_i hcontrol
    rw [List.cons_append, readText?, if_neg (by decide), if_pos rfl]
    simp only [List.cons_append, List.nil_append, readEscape?_control hcontrol]
    rfl
  · rename_i hquote hbackslash _ _ _ _ _ hcontrol
    rw [List.singleton_append, readText?, if_neg hquote, if_neg hbackslash, if_neg hcontrol]

/-! ### Whole texts -/

theorem readText?_flatMap_escapeChar (cs rest : List Char) :
    readText? (cs.flatMap escapeChar ++ '"' :: rest) = some (cs.map .char, rest) := by
  induction cs with
  | nil => rw [List.flatMap_nil, List.nil_append, readText?, if_pos rfl, List.map_nil]
  | cons c cs ih =>
    rw [List.flatMap_cons, List.append_assoc, readText?_escapeChar, ih]
    rfl

/-- **A text is read back**, behind its opening quote. -/
theorem readText?_writeText (s : String) (rest : List Char) :
    ∃ cs, writeText s ++ rest = '"' :: cs ∧ readText? cs = some (s.toList.map .char, rest) := by
  refine ⟨_, ?_, readText?_flatMap_escapeChar s.toList rest⟩
  simp [writeText]

/-! ### Names that are no texts -/

/-- The character stands for itself in a written text. -/
def Plain (c : Char) : Prop := c ≠ '"' ∧ c ≠ '\\' ∧ ¬ c.toNat < 0x20

instance : DecidablePred Plain := fun _ ↦ inferInstanceAs (Decidable (_ ∧ _))

theorem plain_of_all {cs : List Char} (h : cs.all (fun c ↦ decide (Plain c)) = true) :
    ∀ c ∈ cs, Plain c :=
  fun c hc ↦ of_decide_eq_true (List.all_eq_true.1 h c hc)

theorem escapeChar_of_plain {c : Char} (h : Plain c) : escapeChar c = [c] := by
  obtain ⟨hquote, hbackslash, hcontrol⟩ := h
  have hne (d : Char) (hd : d.toNat < 0x20) : c ≠ d := fun heq ↦ hcontrol (heq ▸ hd)
  rw [escapeChar, if_neg hquote, if_neg hbackslash, if_neg (hne _ (by decide)),
    if_neg (hne _ (by decide)), if_neg (hne _ (by decide)), if_neg (hne _ (by decide)),
    if_neg (hne _ (by decide)), if_neg hcontrol]

theorem flatMap_escapeChar_of_plain {cs : List Char} (h : ∀ c ∈ cs, Plain c) :
    cs.flatMap escapeChar = cs := by
  induction cs with
  | nil => rfl
  | cons c cs ih =>
    rw [List.flatMap_cons, escapeChar_of_plain (h c (List.mem_cons_self ..)),
      ih fun d hd ↦ h d (List.mem_cons_of_mem _ hd), List.singleton_append]

theorem plain_writeDigits {ds : List Nat} (hds : ∀ d ∈ ds, d < 10) :
    ∀ c ∈ writeDigits ds, Plain c := by
  have hdigit : ∀ d < 10, Plain (Nat.digitChar d) := by decide
  intro c hc
  obtain ⟨d, hd, rfl⟩ := List.mem_map.1 hc
  exact hdigit d (hds d hd)

theorem plain_writeExponent (e : Int) : ∀ c ∈ writeExponent e, Plain c := by
  obtain ⟨ds, hds, -, -, hwrite⟩ := writeExponent_eq e
  rw [hwrite]
  intro c hc
  rcases List.mem_cons.1 hc with rfl | hc
  · split <;> decide
  · exact plain_writeDigits hds c hc

theorem plain_numeral {whole places : List Nat} {exponent : Option Int}
    (hwhole : ∀ d ∈ whole, d < 10) (hplaces : ∀ d ∈ places, d < 10) :
    ∀ c ∈ numeral whole places exponent, Plain c := by
  intro c hc
  rcases List.mem_append.1 hc with hc | hc
  · rcases List.mem_append.1 hc with hc | hc
    · exact plain_writeDigits hwhole c hc
    · split at hc
      · exact absurd hc List.not_mem_nil
      · rcases List.mem_cons.1 hc with rfl | hc
        · decide
        · exact plain_writeDigits hplaces c hc
  · cases exponent with
    | none => exact absurd hc List.not_mem_nil
    | some e =>
      rcases List.mem_cons.1 hc with rfl | hc
      · decide
      · exact plain_writeExponent e c hc

theorem plain_writeInt (n : Int) : ∀ c ∈ writeInt n, Plain c :=
  forall_mem_writeInt (by decide) (by decide) n

theorem plain_writeDouble (x : Float) : ∀ c ∈ writeDouble x, Plain c := by
  have hsign (negative : Bool) : ∀ c ∈ (if negative then ['-'] else []), Plain c := by
    cases negative <;> exact plain_of_all (by decide)
  unfold writeDouble writeDoubleWith
  split
  · exact plain_of_all (by decide)
  · intro c hc
    rcases List.mem_append.1 hc with hc | hc
    · exact hsign _ c hc
    · exact plain_of_all (by decide) c hc
  · rename_i negative m q h
    intro c hc
    rcases List.mem_append.1 hc with hc | hc
    · exact hsign _ c hc
    · obtain ⟨hr, -⟩ := Double.decode_eq_finite h
      by_cases hm : m = 0
      · rw [if_pos hm, write_zero] at hc
        exact plain_numeral (by simp) (by simp) c hc
      · rw [if_neg hm] at hc
        obtain ⟨hpos, -⟩ := near_value_shortest (Nat.pos_of_ne_zero hm) hr
        obtain ⟨whole, places, exponent, hwrite, hwhole, hplaces, -⟩ := spells_write hpos
        rw [hwrite] at hc
        exact plain_numeral hwhole.digit hplaces c hc

/-- No scalar but a text has a character that needs an escape. -/
theorem plain_writeScalar {x : Scalar} (h : x.isText = false) : ∀ c ∈ writeScalar x, Plain c := by
  cases x with
  | null => exact plain_of_all (by decide)
  | bool b => cases b <;> exact plain_of_all (by decide)
  | int n => exact plain_writeInt n
  | double x => exact plain_writeDouble x
  | text s => exact absurd h (by simp [Scalar.isText])
  | torn ps => exact absurd h (by simp [Scalar.isText])

/-- The name of a field as it is read back: one that is not a text has become one. -/
def rereadName (k : Scalar) : Scalar :=
  if k.isText then k else .text (String.ofList (writeScalar k))

/-- **The name of a field is read back**, behind its opening quote. -/
theorem readText?_writeName {k : Scalar} (hk : k.isWritable) (rest : List Char) :
    ∃ cs ps, writeName k ++ rest = '"' :: cs ∧ readText? cs = some (ps, rest) ∧
      Scalar.ofPoints ps = rereadName k := by
  by_cases htext : k.isText
  · obtain ⟨s, rfl⟩ : ∃ s, k = .text s := by
      cases k with
      | text s => exact ⟨s, rfl⟩
      | torn ps => exact absurd hk (by simp [Scalar.isWritable])
      | _ => exact absurd htext (by simp [Scalar.isText])
    obtain ⟨cs, hwrite, hread⟩ := readText?_writeText s rest
    refine ⟨cs, _, hwrite, hread, ?_⟩
    rw [Scalar.ofPoints_map_char, String.ofList_toList]
    rfl
  · have hplain := plain_writeScalar (Bool.eq_false_iff.2 htext)
    refine ⟨writeScalar k ++ '"' :: rest, (writeScalar k).map .char, ?_, ?_, ?_⟩
    · rw [writeName, if_neg htext]
      simp
    · have hread := readText?_flatMap_escapeChar (writeScalar k) rest
      rwa [flatMap_escapeChar_of_plain hplain] at hread
    · rw [Scalar.ofPoints_map_char, rereadName, if_neg htext]

end Organizer.Json
