import Organizer.Proofs.Json.Proper
import Organizer.Proofs.Json.Texts

/-!
# Reading back what was written

Every value that can be written is read back (`read_write`). What is read is `reread`, the value
with its objects made as the reader makes them: all names have become texts, and a name that stood
twice stands once. A JSON value in the proper sense, with texts as names and no name twice, is
therefore read back as itself (`read_write_of_isProper`).

The induction is on the value, for lists and fields at once. It carries the text that follows
(`writeAt` is given it, so that no two texts have to be put together), and it counts steps by the
length of the whole text that is left, which every step of the reader shortens.
-/

namespace Organizer.Json

open Number Text

/-! ### What is read back -/

mutual

/-- The value as the reader makes it. -/
def reread : Json → Json
  | .scalar x => .scalar x
  | .arr xs => .arr (rereadItems xs)
  | .obj fs => .obj (Fields.ofList (rereadFields fs))
termination_by structural v => v

/-- The items as the reader makes them. -/
def rereadItems : List Json → List Json
  | [] => []
  | x :: xs => reread x :: rereadItems xs
termination_by structural xs => xs

/-- The fields as the reader finds them. -/
def rereadFields : List (Scalar × Json) → List (Scalar × Json)
  | [] => []
  | (k, x) :: fs => (rereadName k, reread x) :: rereadFields fs
termination_by structural fs => fs

end

mutual

theorem reread_of_isProper : ∀ {v : Json}, v.isProper → reread v = v
  | .scalar x, _ => rfl
  | .arr xs, h => by rw [reread, rereadItems_of_areProper h]
  | .obj fs, h => by
    rw [isProper, Bool.and_eq_true, decide_eq_true_iff] at h
    rw [reread, rereadFields_of_areProper h.2, Fields.ofList_of_nodup h.1]

theorem rereadItems_of_areProper : ∀ {xs : List Json}, itemsAreProper xs → rereadItems xs = xs
  | [], _ => rfl
  | x :: xs, h => by
    rw [itemsAreProper, Bool.and_eq_true] at h
    rw [rereadItems, reread_of_isProper h.1, rereadItems_of_areProper h.2]

theorem rereadFields_of_areProper :
    ∀ {fs : List (Scalar × Json)}, fieldsAreProper fs → rereadFields fs = fs
  | [], _ => rfl
  | (k, x) :: fs, h => by
    rw [fieldsAreProper, Bool.and_eq_true, Bool.and_eq_true] at h
    rw [rereadFields, rereadName, if_pos h.1.1, reread_of_isProper h.1.2,
      rereadFields_of_areProper h.2]

end

theorem depthOfFields_set (fs : Fields) (key : Scalar) (v : Json) :
    depthOfFields (fs.set key v) ≤ max (depthOfFields fs) v.depth := by
  induction fs with
  | nil => simp [Fields.set, depthOfFields]
  | cons f fs ih =>
    obtain ⟨k, w⟩ := f
    rw [Fields.set]
    split <;> simp only [depthOfFields] <;> omega

theorem depthOfFields_le_iff {fs : List (Scalar × Json)} {n : Nat} :
    depthOfFields fs ≤ n ↔ ∀ f ∈ fs, f.2.depth ≤ n := by
  induction fs with
  | nil => simp [depthOfFields]
  | cons f fs ih => rw [depthOfFields, Nat.max_le, ih, List.forall_mem_cons]

theorem depthOfFields_append (fs gs : List (Scalar × Json)) :
    depthOfFields (fs ++ gs) = max (depthOfFields fs) (depthOfFields gs) := by
  induction fs with
  | nil => simp [depthOfFields]
  | cons f fs ih => simp only [List.cons_append, depthOfFields, ih, Nat.max_assoc]

theorem depthOfItems_append (xs ys : List Json) :
    depthOfItems (xs ++ ys) = max (depthOfItems xs) (depthOfItems ys) := by
  induction xs with
  | nil => simp [depthOfItems]
  | cons x xs ih => simp only [List.cons_append, depthOfItems, ih, Nat.max_assoc]

theorem depthOfFields_ofList (fs : List (Scalar × Json)) :
    depthOfFields (Fields.ofList fs) ≤ depthOfFields fs := by
  induction fs using List.reverseRecOn with
  | nil => exact Nat.le_refl _
  | append_singleton fs f ih =>
    have hset := depthOfFields_set (Fields.ofList fs) f.1 f.2
    rw [Fields.ofList_append_singleton, depthOfFields_append]
    simp only [depthOfFields]
    omega

mutual

/-- What is read back is no deeper. -/
theorem depth_reread_le : ∀ v : Json, (reread v).depth ≤ v.depth
  | .scalar _ => Nat.le_refl _
  | .arr xs => Nat.succ_le_succ (depthOfItems_reread_le xs)
  | .obj fs =>
    Nat.succ_le_succ (Nat.le_trans (depthOfFields_ofList _) (depthOfFields_reread_le fs))

theorem depthOfItems_reread_le : ∀ xs : List Json, depthOfItems (rereadItems xs) ≤ depthOfItems xs
  | [] => Nat.le_refl _
  | x :: xs => by
    have hx := depth_reread_le x
    have hxs := depthOfItems_reread_le xs
    simp only [rereadItems, depthOfItems]
    omega

theorem depthOfFields_reread_le :
    ∀ fs : List (Scalar × Json), depthOfFields (rereadFields fs) ≤ depthOfFields fs
  | [] => Nat.le_refl _
  | (k, x) :: fs => by
    have hx := depth_reread_le x
    have hfs := depthOfFields_reread_le fs
    simp only [rereadFields, depthOfFields]
    omega

end

/-! ### Between the tokens -/

theorem skipGap_of_head {c : Char} {cs : List Char} (h : isGap c = false) :
    skipGap (c :: cs) = c :: cs := by
  rw [skipGap, List.dropWhile_cons_of_neg (by rw [h]; decide)]

theorem skipGap_lineBreak (level : Nat) {c : Char} {cs : List Char} (h : isGap c = false) :
    skipGap (lineBreak level ++ c :: cs) = c :: cs := by
  have hblank (n : Nat) : skipGap (List.replicate n ' ' ++ c :: cs) = c :: cs := by
    induction n with
    | zero => exact skipGap_of_head h
    | succ n ih =>
      rw [List.replicate_succ, List.cons_append, skipGap, List.dropWhile_cons_of_pos (by rfl)]
      exact ih
  rw [lineBreak, List.cons_append, skipGap, List.dropWhile_cons_of_pos (by rfl)]
  exact hblank _

/-- What a written value can begin with: no blank, and nothing that closes. -/
def Opens (cs : List Char) : Prop :=
  ∃ c rest, cs = c :: rest ∧ isGap c = false ∧ c ≠ ']' ∧ c ≠ '\x7d'

/-- Is the character neither a blank nor one of those that values are told apart by? -/
def startsAtom (c : Char) : Bool :=
  !isGap c && !(['"', '[', ']', '\x7b', '\x7d'].contains c)

theorem startsAtom_iff {c : Char} : startsAtom c = true ↔
    isGap c = false ∧ c ≠ '"' ∧ c ≠ '[' ∧ c ≠ ']' ∧ c ≠ '\x7b' ∧ c ≠ '\x7d' := by
  simp [startsAtom]

/-- What an atom begins with. -/
theorem startsAtom_writeScalar {x : Scalar} (h : x.isText = false) :
    ∃ c rest, writeScalar x = c :: rest ∧ startsAtom c = true := by
  have hnumeral {negative : Bool} {whole places : List Nat} {exponent : Option Int}
      (hwhole : Whole whole) : ∃ c rest, (if negative then ['-'] else []) ++
        numeral whole places exponent = c :: rest ∧ startsAtom c = true := by
    have hdigit : ∀ d < 10, startsAtom (Nat.digitChar d) = true := by decide
    cases negative with
    | true => exact ⟨_, _, rfl, by decide⟩
    | false =>
      obtain ⟨d, ds, rfl⟩ := List.exists_cons_of_ne_nil hwhole.ne_nil
      exact ⟨_, _, rfl, hdigit d (hwhole.digit d (List.mem_cons_self ..))⟩
  cases x with
  | null => exact ⟨_, _, rfl, by decide⟩
  | bool b => cases b <;> exact ⟨_, _, rfl, by decide⟩
  | int n =>
    rw [writeScalar, writeInt_eq_numeral]
    have h := @hnumeral (decide (n < 0)) _ [] none (Whole.digits n.natAbs)
    simpa only [decide_eq_true_iff] using h
  | double x =>
    rw [writeScalar, writeDouble, writeDoubleWith]
    split
    · exact ⟨_, _, rfl, by decide⟩
    · rename_i negative _
      cases negative <;> exact ⟨_, _, rfl, by decide⟩
    · rename_i negative m q hdecode
      obtain ⟨hr, -⟩ := Double.decode_eq_finite hdecode
      by_cases hm : m = 0
      · rw [if_pos hm, write_zero]
        exact hnumeral ⟨by simp, by simp, by simp⟩
      · rw [if_neg hm]
        obtain ⟨hpos, -⟩ := near_value_shortest (Nat.pos_of_ne_zero hm) hr
        obtain ⟨whole, places, exponent, hwrite, hwhole, -⟩ := spells_write hpos
        rw [hwrite]
        exact hnumeral hwhole
  | text s => exact absurd h (by simp [Scalar.isText])
  | torn ps => exact absurd h (by simp [Scalar.isText])

theorem opens_writeAt (level : Nat) (after : List Char) (v : Json) :
    Opens (writeAt level after v) := by
  cases v with
  | scalar x =>
    by_cases htext : x.isText
    · obtain ⟨s, hs⟩ : ∃ s, writeScalar x = writeText s := by
        cases x with
        | text s => exact ⟨s, rfl⟩
        | torn ps => exact ⟨_, rfl⟩
        | _ => exact absurd htext (by simp [Scalar.isText])
      rw [writeAt, hs]
      exact ⟨_, _, rfl, by decide⟩
    · obtain ⟨c, rest, hwrite, hc⟩ := startsAtom_writeScalar (Bool.eq_false_iff.2 htext)
      obtain ⟨hgap, -, -, hbracket, -, hbrace⟩ := startsAtom_iff.1 hc
      rw [writeAt, hwrite]
      exact ⟨c, _, rfl, hgap, hbracket, hbrace⟩
  | arr xs => cases xs <;> exact ⟨_, _, rfl, by decide⟩
  | obj fs =>
    cases fs with
    | nil => exact ⟨_, _, rfl, by decide⟩
    | cons f fs =>
      obtain ⟨k, x⟩ := f
      exact ⟨_, _, rfl, by decide⟩

theorem closes_lineBreak (level : Nat) (after : List Char) : Closes (lineBreak level ++ after) :=
  fun _ hc ↦ .inr (Option.some.inj hc).symm

theorem closes_writeItems (level : Nat) {after : List Char} (h : Closes after) (xs : List Json) :
    Closes (writeItems level after xs) := by
  cases xs with
  | nil => exact h
  | cons x xs => exact fun _ hc ↦ .inl (Option.some.inj hc).symm

theorem closes_writeFields (level : Nat) {after : List Char} (h : Closes after)
    (fs : List (Scalar × Json)) : Closes (writeFields level after fs) := by
  cases fs with
  | nil => exact h
  | cons f fs => exact fun _ hc ↦ .inl (Option.some.inj hc).symm

/-- A value takes up some of the text. -/
theorem length_lt_writeAt (level : Nat) (after : List Char) (v : Json) :
    after.length < (writeAt level after v).length := by
  obtain ⟨c, rest, hopens, -⟩ := opens_writeAt level [] v
  have hsplit : writeAt level after v = writeAt level [] v ++ after := by
    rw [← writeAt_append, List.nil_append]
  rw [hsplit, hopens, List.length_append, List.length_cons]
  omega

/-! ### Scalars -/

theorem readAtom?_writeScalar {x : Scalar} (hx : x.isWritable) (htext : x.isText = false)
    {rest : List Char} (hrest : Closes rest) :
    readAtom? (writeScalar x ++ rest) = some (x, rest) := by
  cases x with
  | null => rfl
  | bool b => cases b <;> rfl
  | int n => exact readAtom?_writeInt (by simpa [Scalar.isWritable] using hx) hrest
  | double x => exact readAtom?_writeDouble x hrest
  | text s => exact absurd htext (by simp [Scalar.isText])
  | torn ps => exact absurd hx (by simp [Scalar.isWritable])

/-- What begins like an atom is read as one. -/
theorem readValue_of_startsAtom {c : Char} {cs : List Char} (hc : startsAtom c = true)
    (steps room : Nat) :
    readValue (steps + 1) room (c :: cs) =
      (orMalformed (readAtom? (c :: cs))).map fun (x, rest) ↦ (.scalar x, rest) := by
  obtain ⟨-, hquote, hbracket, -, hbrace, -⟩ := startsAtom_iff.1 hc
  rw [readValue]
  · cases readAtom? (c :: cs) <;> rfl
  · exact fun _ h ↦ hquote (List.cons.inj h).1
  · exact fun _ h ↦ hbracket (List.cons.inj h).1
  · exact fun _ h ↦ hbrace (List.cons.inj h).1

theorem readValue_writeScalar {x : Scalar} (hx : x.isWritable) (steps room : Nat)
    {rest : List Char} (hrest : Closes rest) :
    readValue (steps + 1) room (writeScalar x ++ rest) = .ok (.scalar x, rest) := by
  by_cases htext : x.isText
  · obtain ⟨s, rfl⟩ : ∃ s, x = .text s := by
      cases x with
      | text s => exact ⟨s, rfl⟩
      | torn ps => exact absurd hx (by simp [Scalar.isWritable])
      | _ => exact absurd htext (by simp [Scalar.isText])
    obtain ⟨cs, hwrite, hread⟩ := readText?_writeText s rest
    rw [writeScalar, hwrite, readValue, hread]
    show Except.ok (scalar (Scalar.ofPoints (s.toList.map .char)), rest) = _
    rw [Scalar.ofPoints_map_char, String.ofList_toList]
  · have hatom := Bool.eq_false_iff.2 htext
    obtain ⟨c, cs, hwrite, hc⟩ := startsAtom_writeScalar hatom
    have hread := readAtom?_writeScalar hx hatom hrest
    rw [hwrite, List.cons_append] at hread ⊢
    rw [readValue_of_startsAtom hc, hread]
    rfl

/-! ### Lists -/

section Lists

variable {steps room : Nat} {cs rest after : List Char} {x : Json} {xs : List Json}

/-- An opening bracket, a line break and items. -/
theorem readValue_of_readItems (level : Nat) (hroom : room ≠ 0) (hcs : Opens cs)
    (h : readItems steps (room - 1) cs = .ok (xs, rest)) :
    readValue (steps + 1) room ('[' :: lineBreak level ++ cs) = .ok (.arr xs, rest) := by
  obtain ⟨c, cs, rfl, hgap, hbracket, -⟩ := hcs
  simp only [List.cons_append, readValue, hroom, if_false, skipGap_lineBreak level hgap]
  split
  · exact absurd (List.cons.inj ‹_›).1 hbracket
  · rw [h]
    rfl

/-- The last item, a line break and the closing bracket. -/
theorem readItems_last (level : Nat)
    (h : readValue steps room cs = .ok (x, lineBreak level ++ ']' :: after)) :
    readItems (steps + 1) room cs = .ok ([x], after) := by
  have hbracket : isGap ']' = false := rfl
  simp only [readItems, h, bind, Except.bind, skipGap_lineBreak level hbracket]
  rfl

/-- An item, a comma, a line break and more items. -/
theorem readItems_more (level : Nat)
    (h : readValue steps room cs = .ok (x, ',' :: lineBreak level ++ after)) (hopens : Opens after)
    (hmore : readItems steps room after = .ok (xs, rest)) :
    readItems (steps + 1) room cs = .ok (x :: xs, rest) := by
  obtain ⟨c, after, rfl, hgap, -⟩ := hopens
  have hcomma : skipGap (',' :: lineBreak level ++ c :: after) =
      ',' :: (lineBreak level ++ c :: after) :=
    skipGap_of_head (by decide)
  simp only [readItems, h, bind, Except.bind, hcomma, skipGap_lineBreak level hgap, hmore]
  rfl

end Lists

/-! ### Objects -/

section Objects

variable {steps room : Nat} {name cs rest after : List Char} {ps : List CodePoint} {x : Json}
  {fs : List (Scalar × Json)}

/-- An opening brace, a line break and fields. -/
theorem readValue_of_readFields (level : Nat) (hroom : room ≠ 0)
    (h : readFields steps (room - 1) ('"' :: name) = .ok (fs, rest)) :
    readValue (steps + 1) room ('\x7b' :: lineBreak level ++ '"' :: name) =
      .ok (.obj (Fields.ofList fs), rest) := by
  have hquote : isGap '"' = false := rfl
  simp only [List.cons_append, readValue, hroom, if_false, skipGap_lineBreak level hquote]
  show readFields steps (room - 1) ('"' :: name) >>= _ = _
  rw [h]
  rfl

/-- The colon and the blank between a name and a value. -/
theorem skipGap_blank (hcs : Opens cs) : skipGap (' ' :: cs) = cs := by
  obtain ⟨c, cs, rfl, hc, -⟩ := hcs
  rw [skipGap, List.dropWhile_cons_of_pos (by rfl)]
  exact skipGap_of_head hc

/-- The last field, a line break and the closing brace. -/
theorem readFields_last (level : Nat) (hname : readText? name = some (ps, ':' :: ' ' :: cs))
    (hcs : Opens cs) (h : readValue steps room cs = .ok (x, lineBreak level ++ '\x7d' :: after)) :
    readFields (steps + 1) room ('"' :: name) = .ok ([(.ofPoints ps, x)], after) := by
  have hcolon : skipGap (':' :: ' ' :: cs) = ':' :: ' ' :: cs := skipGap_of_head (by decide)
  have hbrace : isGap '\x7d' = false := rfl
  simp only [readFields, hname, orMalformed, bind, Except.bind, hcolon, skipGap_blank hcs, h,
    skipGap_lineBreak level hbrace]
  rfl

/-- A field, a comma, a line break and more fields. -/
theorem readFields_more (level : Nat) {name' : List Char}
    (hname : readText? name = some (ps, ':' :: ' ' :: cs)) (hcs : Opens cs)
    (h : readValue steps room cs = .ok (x, ',' :: lineBreak level ++ '"' :: name'))
    (hmore : readFields steps room ('"' :: name') = .ok (fs, rest)) :
    readFields (steps + 1) room ('"' :: name) = .ok ((.ofPoints ps, x) :: fs, rest) := by
  have hcolon : skipGap (':' :: ' ' :: cs) = ':' :: ' ' :: cs := skipGap_of_head (by decide)
  have hcomma : skipGap (',' :: lineBreak level ++ '"' :: name') =
      ',' :: (lineBreak level ++ '"' :: name') :=
    skipGap_of_head (by decide)
  have hquote : isGap '"' = false := rfl
  simp only [readFields, hname, orMalformed, bind, Except.bind, hcolon, skipGap_blank hcs, h,
    hcomma, skipGap_lineBreak level hquote, hmore]
  rfl

end Objects

/-! ### Values -/

theorem length_lineBreak_pos (level : Nat) : 0 < (lineBreak level).length := by
  simp [lineBreak]

theorem length_writeItems_lt (level : Nat) (after : List Char) (x : Json) (xs : List Json) :
    (writeAt level (writeItems level after xs) x).length <
      (writeItems level after (x :: xs)).length := by
  rw [writeItems, List.cons_append, List.length_cons, List.length_append]
  omega

theorem length_writeFields_lt (level : Nat) (after : List Char) (k : Scalar) (x : Json)
    (fs : List (Scalar × Json)) :
    (writeAt level (writeFields level after fs) x).length <
      (writeFields level after ((k, x) :: fs)).length := by
  rw [writeFields, List.length_append, List.length_cons, List.length_cons]
  omega

/-- There is a step for everything that is written. -/
theorem exists_step {level steps : Nat} {after : List Char} {v : Json}
    (h : (writeAt level after v).length ≤ steps) : ∃ s, steps = s + 1 :=
  Nat.exists_eq_add_one.2 (Nat.lt_of_lt_of_le (Nat.zero_lt_of_lt (length_lt_writeAt ..)) h)

mutual

/-- **A written value is read back**, and what follows it is left. -/
theorem readValue_writeAt : ∀ (v : Json) {level steps room : Nat} {after : List Char},
    v.allScalars Scalar.isWritable → v.depth ≤ room → Closes after →
    (writeAt level after v).length ≤ steps →
    readValue steps room (writeAt level after v) = .ok (reread v, after)
  | .scalar x, level, steps, room, after, hv, _, hafter, hsteps => by
    obtain ⟨steps, rfl⟩ := exists_step hsteps
    rw [writeAt, readValue_writeScalar hv steps room hafter]
    rfl
  | .arr [], level, steps, room, after, _, hroom, hafter, hsteps => by
    obtain ⟨steps, rfl⟩ := exists_step hsteps
    have hroom' : room ≠ 0 := Nat.ne_of_gt hroom
    rw [writeAt, readValue, if_neg hroom']
    rfl
  | .arr (x :: xs), level, steps, room, after, hv, hroom, hafter, hsteps => by
    obtain ⟨steps, rfl⟩ := exists_step hsteps
    obtain ⟨hx, hxs⟩ := Bool.and_eq_true_iff.1 hv
    have hdepth : max x.depth (depthOfItems xs) ≤ room - 1 := Nat.le_sub_of_add_le hroom
    have hroom' : room ≠ 0 := Nat.ne_of_gt (Nat.lt_of_lt_of_le (Nat.succ_pos _) hroom)
    rw [writeAt] at hsteps ⊢
    -- the bracket and the line break take up room and steps, and the items get the rest
    refine readValue_of_readItems (level + 1) hroom' (opens_writeAt ..) ?_
    refine readItems_writeItems x xs hx hxs (Nat.le_trans (Nat.le_max_left ..) hdepth)
      (Nat.le_trans (Nat.le_max_right ..) hdepth) ?_
    rw [List.cons_append, List.length_cons, List.length_append] at hsteps
    have hbreak := length_lineBreak_pos (level + 1)
    omega
  | .obj [], level, steps, room, after, _, hroom, hafter, hsteps => by
    obtain ⟨steps, rfl⟩ := exists_step hsteps
    have hroom' : room ≠ 0 := Nat.ne_of_gt hroom
    rw [writeAt, readValue, if_neg hroom']
    rfl
  | .obj ((k, x) :: fs), level, steps, room, after, hv, hroom, hafter, hsteps => by
    obtain ⟨steps, rfl⟩ := exists_step hsteps
    obtain ⟨hkx, hfs⟩ := Bool.and_eq_true_iff.1 hv
    obtain ⟨hk, hx⟩ := Bool.and_eq_true_iff.1 hkx
    have hdepth : max x.depth (depthOfFields fs) ≤ room - 1 := Nat.le_sub_of_add_le hroom
    have hroom' : room ≠ 0 := Nat.ne_of_gt (Nat.lt_of_lt_of_le (Nat.succ_pos _) hroom)
    rw [writeAt, List.append_assoc] at hsteps ⊢
    -- the name of the first field is part of the text that it takes up
    have hshort : (writeAt (level + 1)
        (writeFields (level + 1) (lineBreak level ++ '\x7d' :: after) fs) x).length < steps := by
      rw [List.cons_append, List.length_cons, List.length_append, List.length_append,
        List.length_cons, List.length_cons] at hsteps
      omega
    have hfields := readFields_writeFields k x fs hk hx hfs
      (Nat.le_trans (Nat.le_max_left ..) hdepth) (Nat.le_trans (Nat.le_max_right ..) hdepth) hshort
    obtain ⟨name, ps, hname, -⟩ := readText?_writeName hk (':' :: ' ' :: writeAt (level + 1)
      (writeFields (level + 1) (lineBreak level ++ '\x7d' :: after) fs) x)
    rw [hname] at hfields ⊢
    exact readValue_of_readFields (level + 1) hroom' hfields
termination_by v => sizeOf v

theorem readItems_writeItems : ∀ (x : Json) (xs : List Json) {outer level steps room : Nat}
    {after : List Char}, x.allScalars Scalar.isWritable → allScalarsOfItems Scalar.isWritable xs →
    x.depth ≤ room → depthOfItems xs ≤ room →
    (writeAt level (writeItems level (lineBreak outer ++ ']' :: after) xs) x).length < steps →
    readItems steps room
        (writeAt level (writeItems level (lineBreak outer ++ ']' :: after) xs) x) =
      .ok (reread x :: rereadItems xs, after)
  | x, [], outer, level, steps, room, after, hx, _, hdepth, _, hsteps => by
    obtain ⟨steps, rfl⟩ := exists_step (Nat.le_of_lt hsteps)
    exact readItems_last outer (readValue_writeAt x hx hdepth (closes_lineBreak outer _)
      (Nat.le_of_lt_succ hsteps))
  | x, y :: ys, outer, level, steps, room, after, hx, hxs, hdepth, hdepths, hsteps => by
    obtain ⟨steps, rfl⟩ := exists_step (Nat.le_of_lt hsteps)
    obtain ⟨hy, hys⟩ := Bool.and_eq_true_iff.1 hxs
    refine readItems_more level (readValue_writeAt x hx hdepth
      (closes_writeItems level (closes_lineBreak outer _) (y :: ys)) (Nat.le_of_lt_succ hsteps))
      (opens_writeAt ..) ?_
    refine readItems_writeItems y ys hy hys (Nat.le_trans (Nat.le_max_left ..) hdepths)
      (Nat.le_trans (Nat.le_max_right ..) hdepths) ?_
    have h1 := length_writeItems_lt level (lineBreak outer ++ ']' :: after) y ys
    have h2 := length_lt_writeAt level
      (writeItems level (lineBreak outer ++ ']' :: after) (y :: ys)) x
    omega
termination_by x xs => 1 + sizeOf x + sizeOf xs

theorem readFields_writeFields : ∀ (k : Scalar) (x : Json) (fs : List (Scalar × Json))
    {outer level steps room : Nat} {after : List Char}, k.isWritable →
    x.allScalars Scalar.isWritable → allScalarsOfFields Scalar.isWritable fs →
    x.depth ≤ room → depthOfFields fs ≤ room →
    (writeAt level (writeFields level (lineBreak outer ++ '\x7d' :: after) fs) x).length < steps →
    readFields steps room (writeName k ++ ':' :: ' ' ::
        writeAt level (writeFields level (lineBreak outer ++ '\x7d' :: after) fs) x) =
      .ok ((rereadName k, reread x) :: rereadFields fs, after)
  | k, x, [], outer, level, steps, room, after, hk, hx, _, hdepth, _, hsteps => by
    obtain ⟨steps, rfl⟩ := exists_step (Nat.le_of_lt hsteps)
    obtain ⟨name, ps, hname, hread, hps⟩ := readText?_writeName hk (':' :: ' ' ::
      writeAt level (writeFields level (lineBreak outer ++ '\x7d' :: after) []) x)
    rw [hname, ← hps]
    exact readFields_last outer hread (opens_writeAt ..) (readValue_writeAt x hx hdepth
      (closes_lineBreak outer _) (Nat.le_of_lt_succ hsteps))
  | k, x, (l, y) :: fs, outer, level, steps, room, after, hk, hx, hfs, hdepth, hdepths, hsteps => by
    obtain ⟨steps, rfl⟩ := exists_step (Nat.le_of_lt hsteps)
    obtain ⟨hly, hfs⟩ := Bool.and_eq_true_iff.1 hfs
    obtain ⟨hl, hy⟩ := Bool.and_eq_true_iff.1 hly
    have hshort : (writeAt level
        (writeFields level (lineBreak outer ++ '\x7d' :: after) fs) y).length < steps := by
      have h1 := length_writeFields_lt level (lineBreak outer ++ '\x7d' :: after) l y fs
      have h2 := length_lt_writeAt level
        (writeFields level (lineBreak outer ++ '\x7d' :: after) ((l, y) :: fs)) x
      omega
    have hmore := readFields_writeFields l y fs hl hy hfs
      (Nat.le_trans (Nat.le_max_left ..) hdepths) (Nat.le_trans (Nat.le_max_right ..) hdepths)
      hshort
    have hvalue := readValue_writeAt x hx hdepth
      (closes_writeFields level (closes_lineBreak outer ('\x7d' :: after)) ((l, y) :: fs))
      (Nat.le_of_lt_succ hsteps)
    obtain ⟨name, ps, hname, hread, hps⟩ := readText?_writeName hk (':' :: ' ' ::
      writeAt level (writeFields level (lineBreak outer ++ '\x7d' :: after) ((l, y) :: fs)) x)
    obtain ⟨name', ps', hname', -⟩ := readText?_writeName hl (':' :: ' ' ::
      writeAt level (writeFields level (lineBreak outer ++ '\x7d' :: after) fs) y)
    rw [hname, ← hps]
    rw [hname'] at hmore
    refine readFields_more level hread (opens_writeAt ..) ?_ hmore
    rw [hvalue, ← hname']
    rw [writeFields, List.append_assoc]
termination_by _ x fs => 1 + sizeOf x + sizeOf fs

end

/-! ### Whole texts -/

/-- A written value is read back where there is room for it. -/
theorem readChars_write {v : Json} {room : Nat} (hv : v.allScalars Scalar.isWritable = true)
    (hroom : v.depth ≤ room) : readChars room v.write.toList = .ok (reread v) := by
  have hskip : skipGap (writeAt 0 [] v) = writeAt 0 [] v := by
    obtain ⟨c, rest, hopens, hgap, -⟩ := opens_writeAt 0 [] v
    rw [hopens, skipGap_of_head hgap]
  have hcloses : Closes [] := fun _ h ↦ absurd h (by simp)
  have hread : readValue (2 * (writeAt 0 [] v).length + 2) room (writeAt 0 [] v) =
      .ok (reread v, []) :=
    readValue_writeAt v hv hroom hcloses (by omega)
  rw [write, String.toList_ofList, readChars, hskip, hread]
  rfl

/-- **Whatever can be written is read back**, as the reader makes it. -/
theorem read_write {v : Json} (hv : v.isWritable) : read v.write = .ok (reread v) := by
  obtain ⟨hscalars, hdepth⟩ := Bool.and_eq_true_iff.1 hv
  exact readChars_write hscalars (Nat.le_trans (of_decide_eq_true hdepth) (by decide))

/-- A proper value is read back as itself. -/
theorem read_write_of_isProper {v : Json} (hv : v.isWritable) (hproper : v.isProper) :
    read v.write = .ok v := by
  rw [read_write hv, reread_of_isProper hproper]

end Organizer.Json
