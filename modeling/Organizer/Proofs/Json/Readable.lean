import Organizer.Proofs.Json.RoundTrip

/-!
# What can be read

A value that was read keeps the limits of the reader: it is nested no deeper than there was room
for, and none of its whole numbers has too many digits (`isReadable_of_readChars`). But for torn
texts it can therefore be written and read again, and so a text that is read, written and read once
more gives the value that it gave at first (`readChars_write_of_readChars`).

The room is a limit of the reader and not of the written form. A value of any depth has a text, and
a reader with enough room reads it (`readChars_write_iff`).
-/

namespace Organizer

open Number Text

/-- Can the scalar come from a file? A whole number of too many digits is not read. -/
def Scalar.isReadable : Scalar → Bool
  | .int n => (digits n.natAbs).length ≤ Json.maxDigits
  | _ => true

namespace Json

/-! ### Whole numbers -/

theorem ofDigits_lt {ds : List Nat} (h : ∀ d ∈ ds, d < 10) : ofDigits ds < 10 ^ ds.length := by
  induction ds using List.reverseRecOn with
  | nil => decide
  | append_singleton ds d ih =>
    have hds := ih fun e he ↦ h e (List.mem_append_left _ he)
    have hd := h d (by simp)
    rw [ofDigits_append_singleton, List.length_append, List.length_singleton, pow_succ]
    omega

/-- A number has no more digits than were written for it. -/
theorem length_digits_ofDigits_le {ds : List Nat} (h : ∀ d ∈ ds, d < 10) (hne : ds ≠ []) :
    (digits (ofDigits ds)).length ≤ ds.length := by
  have hlength : 0 < ds.length := List.length_pos_iff.2 hne
  rcases Nat.eq_zero_or_pos (ofDigits ds) with hzero | hpos
  · rw [hzero, digits_of_lt (by decide)]
    exact hlength
  · have hlow := (pow_length_digits (ofDigits ds) hpos).1
    have hpow : 10 ^ ((digits (ofDigits ds)).length - 1) < 10 ^ ds.length :=
      Nat.lt_of_le_of_lt hlow (ofDigits_lt h)
    have := (Nat.pow_lt_pow_iff_right (by decide)).1 hpow
    omega

theorem lt_ten_of_takeAsciiDigits (cs : List Char) : ∀ d ∈ (takeAsciiDigits cs).1, d < 10 := by
  induction cs with
  | nil => simp [takeAsciiDigits]
  | cons c cs ih =>
    rw [takeAsciiDigits]
    split
    · rename_i e he
      intro d hd
      rcases List.mem_cons.1 hd with rfl | hd
      · exact lt_ten_of_asciiDigit? he
      · exact ih d hd
    · simp

theorem whole_of_takeWhole? {cs rest : List Char} {ds : List Nat}
    (h : takeWhole? cs = some (ds, rest)) : (∀ d ∈ ds, d < 10) ∧ ds ≠ [] := by
  rw [takeWhole?.eq_def] at h
  split at h
  · cases h
    simp
  · have hdigits := lt_ten_of_takeAsciiDigits cs
    split at h
    · cases h
    · rename_i hne
      rw [Option.some.inj h] at hne hdigits
      exact ⟨hdigits, fun hnil ↦ hne rest (Prod.ext hnil rfl)⟩

theorem isReadable_of_readUnsigned? {negative : Bool} {cs rest : List Char} {x : Scalar}
    (h : readUnsigned? negative cs = some (x, rest)) : x.isReadable = true := by
  rw [readUnsigned?] at h
  obtain ⟨⟨whole, rest'⟩, hwhole, h⟩ := Option.bind_eq_some_iff.1 h
  obtain ⟨hdigit, hne⟩ := whole_of_takeWhole? hwhole
  dsimp only at h
  split at h
  · split at h
    · cases h
    · rename_i hshort
      cases h
      have hlength := length_digits_ofDigits_le hdigit hne
      have habs : (if negative then -(ofDigits whole : Int) else ofDigits whole).natAbs =
          ofDigits whole := by
        split <;> simp
      rw [Scalar.isReadable, habs]
      exact decide_eq_true (by omega)
  · cases h
    rfl

/-- What is read and is neither a text nor made of parts. -/
theorem isReadable_of_readAtom? {cs rest : List Char} {x : Scalar}
    (h : readAtom? cs = some (x, rest)) : x.isReadable = true := by
  unfold readAtom? at h
  -- six words, a number with a sign, and one without
  repeat' split at h
  iterate 6
    · cases h
      rfl
  · exact isReadable_of_readUnsigned? h
  · exact isReadable_of_readUnsigned? h

theorem isReadable_ofPoints (ps : List CodePoint) : (Scalar.ofPoints ps).isReadable = true := by
  rw [Scalar.ofPoints]
  split <;> rfl

/-! ### Values -/

theorem allScalarsOfFields_set {p : Scalar → Bool} {fs : Fields} {key : Scalar} {v : Json}
    (hfs : allScalarsOfFields p fs = true) (hkey : p key = true) (hv : v.allScalars p = true) :
    allScalarsOfFields p (fs.set key v) = true := by
  induction fs with
  | nil => simp [Fields.set, allScalarsOfFields, hkey, hv]
  | cons f fs ih =>
    obtain ⟨k, w⟩ := f
    simp only [allScalarsOfFields, Bool.and_eq_true] at hfs
    obtain ⟨⟨hk, hw⟩, hfs⟩ := hfs
    rw [Fields.set]
    split
    · simp only [allScalarsOfFields, hk, hv, hfs, Bool.and_self]
    · simp only [allScalarsOfFields, hk, hw, ih hfs, Bool.and_self]

theorem allScalarsOfFields_append {p : Scalar → Bool} (fs gs : List (Scalar × Json)) :
    allScalarsOfFields p (fs ++ gs) =
      (allScalarsOfFields p fs && allScalarsOfFields p gs) := by
  induction fs with
  | nil => simp [allScalarsOfFields]
  | cons f fs ih => simp only [List.cons_append, allScalarsOfFields, ih, Bool.and_assoc]

theorem allScalarsOfFields_ofList {p : Scalar → Bool} {fs : List (Scalar × Json)}
    (h : allScalarsOfFields p fs = true) : allScalarsOfFields p (Fields.ofList fs) = true := by
  induction fs using List.reverseRecOn with
  | nil => rfl
  | append_singleton fs f ih =>
    obtain ⟨k, v⟩ := f
    simp only [allScalarsOfFields_append, allScalarsOfFields, Bool.and_eq_true] at h
    obtain ⟨hfs, ⟨hk, hv⟩, -⟩ := h
    rw [Fields.ofList_append_singleton]
    exact allScalarsOfFields_set (ih hfs) hk hv

/-- Whatever is read keeps the limits of the reader. -/
theorem making_readable : Making (fun x ↦ x.isReadable = true)
    (fun room v ↦ v.depth ≤ room ∧ v.allScalars Scalar.isReadable = true)
    (fun room xs ↦ depthOfItems xs ≤ room ∧ allScalarsOfItems Scalar.isReadable xs = true)
    (fun room fs ↦ depthOfFields fs ≤ room ∧ allScalarsOfFields Scalar.isReadable fs = true) where
  of_atom := isReadable_of_readAtom?
  of_text := isReadable_ofPoints
  scalar h := ⟨Nat.zero_le _, h⟩
  list h := ⟨Nat.succ_le_succ h.1, h.2⟩
  object h := ⟨Nat.succ_le_succ (Nat.le_trans (depthOfFields_ofList _) h.1),
    allScalarsOfFields_ofList h.2⟩
  noItems := ⟨Nat.zero_le _, rfl⟩
  item hx hxs := ⟨Nat.max_le.2 ⟨hx.1, hxs.1⟩, Bool.and_eq_true_iff.2 ⟨hx.2, hxs.2⟩⟩
  noFields := ⟨Nat.zero_le _, rfl⟩
  field hx hfs := ⟨Nat.max_le.2 ⟨hx.1, hfs.1⟩, Bool.and_eq_true_iff.2
    ⟨Bool.and_eq_true_iff.2 ⟨isReadable_ofPoints _, hx.2⟩, hfs.2⟩⟩

/-- **What is read keeps the limits of the reader.** -/
theorem isReadable_of_readChars {room : Nat} {cs : List Char} {v : Json}
    (h : readChars room cs = .ok v) :
    v.depth ≤ room ∧ v.allScalars Scalar.isReadable = true :=
  of_readChars making_readable h

/-- What can be read and is not torn can be written. -/
theorem isWritable_of_isReadable {x : Scalar} (hx : x.isReadable = true)
    (htorn : x.isTorn = false) : x.isWritable = true := by
  cases x <;> simp_all [Scalar.isReadable, Scalar.isWritable, Scalar.isTorn]

mutual

theorem allScalars_isWritable : ∀ {v : Json}, v.allScalars Scalar.isReadable = true →
    v.hasTorn = false → v.allScalars Scalar.isWritable = true
  | .scalar _, h, htorn => isWritable_of_isReadable h htorn
  | .arr _, h, htorn => allScalarsOfItems_isWritable h htorn
  | .obj _, h, htorn => allScalarsOfFields_isWritable h htorn

theorem allScalarsOfItems_isWritable : ∀ {xs : List Json},
    allScalarsOfItems Scalar.isReadable xs = true → hasTornItem xs = false →
    allScalarsOfItems Scalar.isWritable xs = true
  | [], _, _ => rfl
  | _ :: _, h, htorn => by
    obtain ⟨hx, hxs⟩ := Bool.and_eq_true_iff.1 h
    obtain ⟨hx', hxs'⟩ := Bool.or_eq_false_iff.1 htorn
    exact Bool.and_eq_true_iff.2
      ⟨allScalars_isWritable hx hx', allScalarsOfItems_isWritable hxs hxs'⟩

theorem allScalarsOfFields_isWritable : ∀ {fs : List (Scalar × Json)},
    allScalarsOfFields Scalar.isReadable fs = true → hasTornField fs = false →
    allScalarsOfFields Scalar.isWritable fs = true
  | [], _, _ => rfl
  | (_, _) :: _, h, htorn => by
    obtain ⟨hf, hfs⟩ := Bool.and_eq_true_iff.1 h
    obtain ⟨hk, hx⟩ := Bool.and_eq_true_iff.1 hf
    obtain ⟨hf', hfs'⟩ := Bool.or_eq_false_iff.1 htorn
    obtain ⟨hk', hx'⟩ := Bool.or_eq_false_iff.1 hf'
    exact Bool.and_eq_true_iff.2 ⟨Bool.and_eq_true_iff.2
      ⟨isWritable_of_isReadable hk hk', allScalars_isWritable hx hx'⟩,
      allScalarsOfFields_isWritable hfs hfs'⟩

end

/-! ### Reading what was written -/

/-- **A written value is read back exactly if there is room for it.** -/
theorem readChars_write_iff {v : Json} (hproper : v.isProper = true)
    (hscalars : v.allScalars Scalar.isWritable = true) (room : Nat) :
    readChars room v.write.toList = .ok v ↔ v.depth ≤ room := by
  constructor
  · exact fun h ↦ (isReadable_of_readChars h).1
  · intro hroom
    rw [readChars_write hscalars hroom, reread_of_isProper hproper]

/-- **To read, write and read again** is to read once. -/
theorem readChars_write_of_readChars {room : Nat} {cs : List Char} {v : Json}
    (h : readChars room cs = .ok v) (htorn : v.hasTorn = false) :
    readChars room v.write.toList = .ok v := by
  obtain ⟨hdepth, hscalars⟩ := isReadable_of_readChars h
  exact (readChars_write_iff (isProper_of_readChars h)
    (allScalars_isWritable hscalars htorn) room).2 hdepth

/-! ### Values as a reader makes them -/

/-- The value is as a reader makes it: proper JSON without whole numbers of too many digits. -/
structure AsRead (v : Json) : Prop where
  isProper : v.isProper = true
  isReadable : v.allScalars Scalar.isReadable = true

theorem asRead_of_readChars {room : Nat} {cs : List Char} {v : Json}
    (h : readChars room cs = .ok v) : v.AsRead :=
  ⟨isProper_of_readChars h, (isReadable_of_readChars h).2⟩

theorem isReadable_of_isText {x : Scalar} (h : x.isText = true) : x.isReadable = true := by
  cases x <;> first | rfl | cases h

theorem AsRead.of_isText {v : Json} (h : v.isText = true) : v.AsRead := by
  cases v with
  | scalar x => exact ⟨rfl, isReadable_of_isText h⟩
  | arr | obj => cases h

theorem allScalarsOfItems_iff {p : Scalar → Bool} {xs : List Json} :
    allScalarsOfItems p xs = true ↔ ∀ x ∈ xs, x.allScalars p = true := by
  induction xs with
  | nil => simp [allScalarsOfItems]
  | cons x xs ih => simp [allScalarsOfItems, ih]

theorem allScalarsOfFields_iff {p : Scalar → Bool} {fs : List (Scalar × Json)} :
    allScalarsOfFields p fs = true ↔ ∀ f ∈ fs, p f.1 = true ∧ f.2.allScalars p = true := by
  induction fs with
  | nil => simp [allScalarsOfFields]
  | cons f fs ih =>
    obtain ⟨k, x⟩ := f
    simp [allScalarsOfFields, ih, and_assoc]

theorem asRead_arr {xs : List Json} : (arr xs).AsRead ↔ ∀ x ∈ xs, x.AsRead := by
  constructor
  · exact fun h x hx ↦ ⟨itemsAreProper_iff.1 h.isProper x hx,
      allScalarsOfItems_iff.1 h.isReadable x hx⟩
  · exact fun h ↦ ⟨itemsAreProper_iff.2 fun x hx ↦ (h x hx).isProper,
      allScalarsOfItems_iff.2 fun x hx ↦ (h x hx).isReadable⟩

theorem asRead_obj {fs : Fields} :
    (obj fs).AsRead ↔ fs.keys.Nodup ∧ ∀ f ∈ fs, f.1.isText = true ∧ f.2.AsRead := by
  constructor
  · intro h
    obtain ⟨hnodup, hproper⟩ := isProper_obj.1 h.isProper
    refine ⟨hnodup, fun f hf ↦ ?_⟩
    obtain ⟨hkey, hvalue⟩ := fieldsAreProper_iff.1 hproper f hf
    exact ⟨hkey, hvalue, (allScalarsOfFields_iff.1 h.isReadable f hf).2⟩
  · rintro ⟨hnodup, h⟩
    refine ⟨isProper_obj.2 ⟨hnodup, fieldsAreProper_iff.2 fun f hf ↦ ?_⟩,
      allScalarsOfFields_iff.2 fun f hf ↦ ?_⟩
    · exact ⟨(h f hf).1, (h f hf).2.isProper⟩
    · exact ⟨isReadable_of_isText (h f hf).1, (h f hf).2.isReadable⟩

/-- A field that is set is as a reader makes it, if its name is a text. -/
theorem AsRead.set {fs : Fields} (h : (obj fs).AsRead) {key : Scalar} {v : Json}
    (hkey : key.isText = true) (hv : v.AsRead) : (obj (fs.set key v)).AsRead :=
  ⟨isProper_set h.isProper hkey hv.isProper,
    allScalarsOfFields_set h.isReadable (isReadable_of_isText hkey) hv.isReadable⟩

end Json

end Organizer
