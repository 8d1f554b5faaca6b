import Organizer.Json.Reader
import Organizer.Proofs.Json.Fields

/-!
# Proper values

The type of values has room for more than JSON: an object may have a number for a name, or one name
twice. What is JSON in the proper sense is said by `isProper`, and the reader makes nothing else
(`isProper_of_read`), because every name it reads is a text and every object is made field by field.

That is one of the properties that hold of all that is read because they hold of what each step of
the reader makes. The induction on the steps is done once, for all such properties
(`makes_of_making`).
-/

namespace Organizer.Json

open Number Text

mutual

/-- Is the value JSON in the proper sense, with texts as names and no name twice in an object? -/
def isProper : Json → Bool
  | .scalar _ => true
  | .arr xs => itemsAreProper xs
  | .obj fs => decide (fs.map (·.1)).Nodup && fieldsAreProper fs
termination_by structural v => v

/-- Are all items proper? -/
def itemsAreProper : List Json → Bool
  | [] => true
  | x :: xs => isProper x && itemsAreProper xs
termination_by structural xs => xs

/-- Are all names texts, and all values proper? -/
def fieldsAreProper : List (Scalar × Json) → Bool
  | [] => true
  | (k, x) :: fs => k.isText && isProper x && fieldsAreProper fs
termination_by structural fs => fs

end

theorem fieldsAreProper_cons {k : Scalar} {x : Json} {fs : List (Scalar × Json)} :
    fieldsAreProper ((k, x) :: fs) = true ↔
      k.isText = true ∧ x.isProper = true ∧ fieldsAreProper fs = true := by
  rw [fieldsAreProper, Bool.and_eq_true, Bool.and_eq_true, and_assoc]

theorem fieldsAreProper_iff {fs : List (Scalar × Json)} :
    fieldsAreProper fs = true ↔ ∀ f ∈ fs, f.1.isText = true ∧ f.2.isProper = true := by
  induction fs with
  | nil => simp [fieldsAreProper]
  | cons f fs ih =>
    obtain ⟨k, x⟩ := f
    rw [fieldsAreProper_cons, ih]
    simp [and_assoc]

theorem itemsAreProper_iff {xs : List Json} :
    itemsAreProper xs = true ↔ ∀ x ∈ xs, x.isProper = true := by
  induction xs with
  | nil => simp [itemsAreProper]
  | cons x xs ih => simp [itemsAreProper, ih]

theorem isProper_obj {fs : Fields} :
    (obj fs).isProper = true ↔ fs.keys.Nodup ∧ fieldsAreProper fs = true := by
  rw [isProper, Bool.and_eq_true, decide_eq_true_iff]
  rfl

theorem fieldsAreProper_set {fs : Fields} (h : fieldsAreProper fs = true) {key : Scalar} {v : Json}
    (hkey : key.isText = true) (hv : v.isProper = true) :
    fieldsAreProper (fs.set key v) = true := by
  induction fs with
  | nil => exact fieldsAreProper_cons.2 ⟨hkey, hv, rfl⟩
  | cons f fs ih =>
    obtain ⟨k, w⟩ := f
    obtain ⟨hk, hw, hfs⟩ := fieldsAreProper_cons.1 h
    rw [Fields.set]
    split
    · exact fieldsAreProper_cons.2 ⟨hk, hv, hfs⟩
    · exact fieldsAreProper_cons.2 ⟨hk, hw, ih hfs⟩

theorem isProper_set {fs : Fields} (h : (obj fs).isProper = true) {key : Scalar} {v : Json}
    (hkey : key.isText = true) (hv : v.isProper = true) :
    (obj (fs.set key v)).isProper = true := by
  obtain ⟨hnodup, hfs⟩ := isProper_obj.1 h
  exact isProper_obj.2 ⟨Fields.nodup_keys_set hnodup key v, fieldsAreProper_set hfs hkey hv⟩

theorem isProper_ofList {fs : List (Scalar × Json)} (h : fieldsAreProper fs = true) :
    (obj (Fields.ofList fs)).isProper = true := by
  induction fs using List.reverseRecOn with
  | nil => rfl
  | append_singleton fs f ih =>
    have hmem := fieldsAreProper_iff.1 h
    have hf := hmem f (by simp)
    have hfs : fieldsAreProper fs = true :=
      fieldsAreProper_iff.2 fun g hg ↦ hmem g (List.mem_append_left _ hg)
    rw [Fields.ofList_append_singleton]
    exact isProper_set (ih hfs) hf.1 hf.2

theorem isProper_of_get? {fs : Fields} (h : (obj fs).isProper = true) {key : Scalar} {v : Json}
    (hget : fs.get? key = some v) : v.isProper = true :=
  (fieldsAreProper_iff.1 (isProper_obj.1 h).2 (key, v) (Fields.mem_of_get? hget)).2

/-- The items that a proper value is made of. -/
theorem itemsAreProper_of_items? {v : Json} (h : v.isProper = true) {xs : List Json}
    (hitems : v.items? = some xs) : itemsAreProper xs = true := by
  cases v with
  | scalar x =>
    rw [items?] at hitems
    obtain ⟨ps, -, rfl⟩ := Option.map_eq_some_iff.1 hitems
    refine itemsAreProper_iff.2 ?_
    intro y hy
    obtain ⟨p, -, rfl⟩ := List.mem_map.1 hy
    rfl
  | arr items =>
    cases hitems
    exact h
  | obj fs =>
    cases hitems
    refine itemsAreProper_iff.2 ?_
    intro y hy
    obtain ⟨f, -, rfl⟩ := List.mem_map.1 hy
    rfl

/-! ### What the reader makes -/

theorem isText_ofPoints (ps : List CodePoint) : (Scalar.ofPoints ps).isText = true := by
  rw [Scalar.ofPoints]
  split <;> rfl

/-- Whatever a reader makes has a property. -/
def Makes {α : Type} (p : α → Prop) (r : Except Fault (α × List Char)) : Prop :=
  ∀ x rest, r = .ok (x, rest) → p x

section Makes

variable {α β : Type} {p : α → Prop} {q : β → Prop}

theorem makes_ok {x : α} {rest : List Char} (h : p x) : Makes p (.ok (x, rest)) := by
  intro y rest' heq
  obtain ⟨rfl, -⟩ := Prod.mk.inj (Except.ok.inj heq)
  exact h

theorem makes_error (e : Fault) : Makes p (.error e) :=
  fun _ _ h ↦ absurd h (by simp)

/-- A reader that goes on with what another has made. -/
theorem makes_bind {r : Except Fault (α × List Char)}
    {f : α × List Char → Except Fault (β × List Char)} (hr : Makes p r)
    (hf : ∀ x rest, p x → Makes q (f (x, rest))) : Makes q (r >>= f) := by
  cases r with
  | error e => exact makes_error e
  | ok y => exact hf y.1 y.2 (hr y.1 y.2 rfl)

theorem makes_anything (r : Except Fault (α × List Char)) : Makes (fun _ ↦ True) r :=
  fun _ _ _ ↦ trivial

end Makes

/-- Properties of what the readers make, with the room that is left for nesting: what is made of
atoms and texts has them, and so has what is made of parts that have them. -/
structure Making (atom : Scalar → Prop) (value : Nat → Json → Prop)
    (items : Nat → List Json → Prop) (fields : Nat → List (Scalar × Json) → Prop) : Prop where
  of_atom : ∀ {cs rest x}, readAtom? cs = some (x, rest) → atom x
  of_text : ∀ ps, atom (.ofPoints ps)
  scalar : ∀ {room x}, atom x → value room (.scalar x)
  list : ∀ {room xs}, items room xs → value (room + 1) (.arr xs)
  object : ∀ {room fs}, fields room fs → value (room + 1) (.obj (Fields.ofList fs))
  noItems : ∀ {room}, items room []
  item : ∀ {room x xs}, value room x → items room xs → items room (x :: xs)
  noFields : ∀ {room}, fields room []
  field : ∀ {room ps x fs}, value room x → fields room fs →
    fields room ((.ofPoints ps, x) :: fs)

section Making

variable {atom : Scalar → Prop} {value : Nat → Json → Prop} {items : Nat → List Json → Prop}
  {fields : Nat → List (Scalar × Json) → Prop}

theorem makes_atom (h : Making atom value items fields) (cs : List Char) :
    Makes atom (orMalformed (readAtom? cs)) := by
  intro x rest heq
  cases hread : readAtom? cs with
  | none => simp [hread, orMalformed] at heq
  | some out =>
    rw [hread] at heq
    cases heq
    exact h.of_atom hread

/-- **Each of the three readers makes what has its property.** -/
theorem makes_of_making (h : Making atom value items fields) (steps : Nat) :
    (∀ room cs, Makes (value room) (readValue steps room cs)) ∧
    (∀ room cs, Makes (items room) (readItems steps room cs)) ∧
    (∀ room cs, Makes (fields room) (readFields steps room cs)) := by
  induction steps with
  | zero => exact ⟨fun _ _ ↦ makes_error _, fun _ _ ↦ makes_error _, fun _ _ ↦ makes_error _⟩
  | succ steps ih =>
    obtain ⟨hvalue, hitems, hfields⟩ := ih
    refine ⟨?_, ?_, ?_⟩
    · intro room cs
      unfold readValue
      -- a text, a list, an object or an atom; lists and objects need room
      split
      · exact makes_bind (makes_anything _) fun ps _ _ ↦ makes_ok (h.scalar (h.of_text ps))
      · cases room with
        | zero => exact makes_error .tooDeep
        | succ room =>
          rw [if_neg (Nat.succ_ne_zero room)]
          split
          · exact makes_ok (h.list h.noItems)
          · exact makes_bind (hitems _ _) fun xs _ hxs ↦ makes_ok (h.list hxs)
      · cases room with
        | zero => exact makes_error .tooDeep
        | succ room =>
          rw [if_neg (Nat.succ_ne_zero room)]
          split
          · exact makes_ok (h.object h.noFields)
          · exact makes_bind (hfields _ _) fun fs _ hfs ↦ makes_ok (h.object hfs)
      · exact makes_bind (makes_atom h _) fun x _ hx ↦ makes_ok (h.scalar hx)
    · intro room cs
      unfold readItems
      refine makes_bind (hvalue _ _) fun x rest hx ↦ ?_
      dsimp only
      split
      · exact makes_ok (h.item hx h.noItems)
      · exact makes_bind (hitems _ _) fun xs _ hxs ↦ makes_ok (h.item hx hxs)
      · exact makes_error _
    · intro room cs
      unfold readFields
      split
      · refine makes_bind (makes_anything _) fun ps rest _ ↦ ?_
        dsimp only
        split
        · refine makes_bind (hvalue _ _) fun x rest hx ↦ ?_
          dsimp only
          split
          · exact makes_ok (h.field hx h.noFields)
          · exact makes_bind (hfields _ _) fun fs _ hfs ↦ makes_ok (h.field hx hfs)
          · exact makes_error _
        · exact makes_error _
      · exact makes_error _

/-- What is read from a whole text has the property of values. -/
theorem of_readChars (h : Making atom value items fields) {room : Nat} {cs : List Char} {v : Json}
    (hread : readChars room cs = .ok v) : value room v := by
  rw [readChars] at hread
  cases hvalue : readValue (2 * cs.length + 2) room (skipGap cs) with
  | error e =>
    rw [hvalue] at hread
    exact absurd hread (by simp [bind, Except.bind])
  | ok out =>
    have hout := (makes_of_making h _).1 _ _ out.1 out.2 hvalue
    rw [hvalue] at hread
    simp only [bind, Except.bind] at hread
    split at hread
    · rwa [← Except.ok.inj hread]
    · exact absurd hread (by simp [throw, throwThe, MonadExceptOf.throw])

end Making

theorem making_proper : Making (fun _ ↦ True) (fun _ v ↦ v.isProper = true)
    (fun _ xs ↦ itemsAreProper xs = true) (fun _ fs ↦ fieldsAreProper fs = true) where
  of_atom _ := trivial
  of_text _ := trivial
  scalar _ := rfl
  list h := h
  object h := isProper_ofList h
  noItems := rfl
  item hx hxs := Bool.and_eq_true_iff.2 ⟨hx, hxs⟩
  noFields := rfl
  field hx hfs := fieldsAreProper_cons.2 ⟨isText_ofPoints _, hx, hfs⟩

theorem isProper_of_readChars {room : Nat} {cs : List Char} {v : Json}
    (h : readChars room cs = .ok v) : v.isProper = true :=
  of_readChars making_proper h

/-- **What is read is proper.** -/
theorem isProper_of_read {s : String} {v : Json} (h : read s = .ok v) : v.isProper = true :=
  isProper_of_readChars h

end Organizer.Json
