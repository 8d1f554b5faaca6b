import Organizer.Proofs.Action.Relating
import Organizer.Proofs.Store.Series

/-!
# Operations on some of the keys

A command has its own keys. Two stores that agree on these cannot be told apart by the command, and
what it does to one it does to the other; all other keys are left alone. Both are said by relations
between stores that operations under own keys respect (`Confined`).

Such a relation comes from one between mappings that is kept when an own key is set (`Entrywise`):
that the mappings agree on the own keys, with or without their order, or that a mapping has the
other keys as they were. Where a store is kept comes in only in one way: a store in a file is
written as a whole, and a value under another key that cannot be written makes every operation fail
(`Related`).

The calendar index lists keys, and these are cleared when the calendar is loaded; a relation that
keeps the index an own key therefore has to keep all that it lists among the own keys (`Listing`).
-/

namespace Organizer.Store

open Organizer.Action Json

variable {own : Scalar → Bool} {R : Store → Store → Prop} {s t : Store} {key : Scalar}
  {records : List Json} {record : Json}

/-! ### Operations -/

/-- Whatever keys are listed are own keys. -/
def Listing (own : Scalar → Bool) (records : List Json) : Prop :=
  ∀ k, Json.scalar k ∈ records → own k = true

/-- Related stores have the same records under own keys, and go on being related if records are put
under an own key. -/
structure Confined (own : Scalar → Bool) (R : Store → Store → Prop) : Prop where
  list : ∀ {s t}, R s t → ∀ {key}, own key = true → s.list key = t.list key
  put : ∀ {key records}, own key = true → (key = indexKey → Listing own records) →
    Alike R (put key records) (put key records)
  /-- Who has a day has the index as well. -/
  index : ∀ {key}, own key = true → isDayKey key = true → own indexKey = true
  listed : ∀ {s t}, R s t → own indexKey = true → ∀ {records}, s.list indexKey = .ok records →
    Listing own records

namespace Confined

theorem recordsAt (h : Confined own R) (hkey : own key = true) :
    Alike R (recordsAt key) (recordsAt key) :=
  .get_bind fun s _ hst ↦ h.list hst hkey ▸ .ofExcept (s.list key)

theorem trackDay (h : Confined own R) (hkey : own key = true) (hday : isDayKey key = true)
    (active : Bool) : Alike R (trackDay key active) (trackDay key active) := by
  have hindex := h.index hkey hday
  refine .bind_of_yields (p := Listing own) (h.recordsAt hindex) (fun s t hst index hrecords ↦ ?_)
    fun index hown ↦ ?_
  · rw [perform_recordsAt] at hrecords
    exact h.listed hst hindex hrecords
  · refine .ite (fun _ ↦ .fail) fun _ ↦ .ite (fun _ ↦ .pure _) fun _ ↦ ?_
    -- the new index lists what the old one does, and perhaps the day
    refine .bind_of_yields (p := Listing own) (.ofExcept _) (fun s t _ days hsorted ↦ ?_)
      fun days hdays ↦ h.put hindex fun _ ↦ hdays
    rw [perform_ofExcept] at hsorted
    intro k hk
    have hmem := mem_of_sorted hsorted hk
    cases active with
    | true =>
      rcases List.mem_append.1 hmem with hmem | hmem
      · exact hown k (mem_of_distinct hmem)
      · cases List.mem_singleton.1 hmem
        exact hkey
    | false => exact hown k (mem_of_distinct (List.mem_filter.1 hmem).1)

/-- **A write under an own key** is confined, with whatever it brings with it. -/
theorem writeRecords (h : Confined own R) (hkey : own key = true)
    (hrecords : key = indexKey → Listing own records) :
    Alike R (writeRecords key records) (writeRecords key records) :=
  .bind (h.put hkey hrecords) fun _ ↦ .ite (fun _ ↦ .fail) fun _ ↦
    .ite (fun hday ↦ h.trackDay hkey hday _) fun _ ↦ .pure _

theorem append (h : Confined own R) (hkey : own key = true) (hother : key ≠ indexKey) :
    Alike R (append key record) (append key record) :=
  .ite (fun _ ↦ .refuse _) fun _ ↦ .bind (h.recordsAt hkey) fun _ ↦
    h.writeRecords hkey fun heq ↦ absurd heq hother

theorem replaceAt (h : Confined own R) (hkey : own key = true) (hother : key ≠ indexKey)
    (place : Json) : Alike R (replaceAt key place record) (replaceAt key place record) :=
  .ite (fun _ ↦ .refuse _) fun _ ↦ .bind (h.recordsAt hkey) fun _ ↦ .bind (.ofExcept _) fun _ ↦
    h.writeRecords hkey fun heq ↦ absurd heq hother

theorem removeAt (h : Confined own R) (hkey : own key = true) (hother : key ≠ indexKey)
    (place : Json) : Alike R (removeAt key place) (removeAt key place) :=
  .bind (h.recordsAt hkey) fun _ ↦ .bind (.ofExcept _) fun _ ↦
    .bind (h.writeRecords hkey fun heq ↦ absurd heq hother) fun _ ↦ .pure _

theorem removeWhere (h : Confined own R) (hkey : own key = true) (hother : key ≠ indexKey)
    (p : Test) : Alike R (removeWhere key p) (removeWhere key p) := by
  refine .bind (h.recordsAt hkey) fun _ ↦ .bind (.require _) ?_
  rintro ⟨kept, removed⟩
  exact .ite (fun _ ↦ .bind (h.writeRecords hkey fun heq ↦ absurd heq hother) fun _ ↦ .pure _)
    fun _ ↦ .pure _

theorem findFirst (h : Confined own R) (hst : R s t) (hkey : own key = true) (p : Test) :
    s.findFirst key p = t.findFirst key p := by
  rw [Store.findFirst, Store.findFirst, h.list hst hkey]

theorem days (h : Confined own R) (hst : R s t) (hindex : own indexKey = true) :
    s.days = t.days := by
  rw [Store.days, Store.days, h.list hst hindex]

end Confined

/-! ### Own entries and others -/

/-- The entries under own keys, in order. -/
def ownPart (own : Scalar → Bool) (entries : Fields) : Fields := entries.filter fun f ↦ own f.1

/-- The entries under other keys, in order. -/
def otherPart (own : Scalar → Bool) (entries : Fields) : Fields :=
  entries.filter fun f ↦ !own f.1

theorem otherPart_set (hkey : own key = true) (entries : Fields) (v : Json) :
    otherPart own (entries.set key v) = otherPart own entries := by
  induction entries with
  | nil => simp [otherPart, Fields.set, hkey]
  | cons f entries ih =>
    obtain ⟨k, w⟩ := f
    rw [otherPart, otherPart] at ih
    rw [Fields.set]
    split
    · rename_i heq
      subst heq
      simp [otherPart, hkey]
    · simp [otherPart, List.filter_cons, ih]

theorem ownPart_set (hkey : own key = true) (entries : Fields) (v : Json) :
    ownPart own (entries.set key v) = (ownPart own entries).set key v := by
  induction entries with
  | nil => simp [ownPart, Fields.set, hkey]
  | cons f entries ih =>
    obtain ⟨k, w⟩ := f
    rw [ownPart, ownPart] at ih
    rw [Fields.set]
    split
    · rename_i heq
      subst heq
      simp [ownPart, hkey, Fields.set]
    · rename_i hne
      cases hk : own k <;> simp [ownPart, hk, ih, Fields.set, hne]

theorem get?_ownPart (hkey : own key = true) (entries : Fields) :
    (ownPart own entries).get? key = entries.get? key := by
  induction entries with
  | nil => rfl
  | cons f entries ih =>
    obtain ⟨k, w⟩ := f
    rw [ownPart] at ih
    cases hk : own k with
    | true => simp [ownPart, hk, Fields.get?_cons, ih]
    | false =>
      have hne : key ≠ k := by
        rintro rfl
        rw [hkey] at hk
        cases hk
      simp [ownPart, hk, Fields.get?_cons, ih, hne]

/-- A mapping can be written if each of its entries can. -/
theorem isWritable_obj_iff {entries : Fields} : (Json.obj entries).isWritable = true ↔
    ∀ f ∈ entries, (Json.obj [f]).isWritable = true := by
  have hlevels : 1 ≤ maxWritten := by decide
  have hsplit (fs : Fields) : (Json.obj fs).isWritable = true ↔
      allScalarsOfFields Scalar.isWritable fs = true ∧ depthOfFields fs ≤ maxWritten - 1 := by
    rw [isWritable, Bool.and_eq_true, decide_eq_true_iff, allScalars, depth]
    exact and_congr_right fun _ ↦ by omega
  simp only [hsplit, allScalarsOfFields_iff, depthOfFields_le_iff, List.mem_singleton, forall_eq]
  exact ⟨fun h f hf ↦ ⟨h.1 f hf, h.2 f hf⟩, fun h ↦ ⟨fun f hf ↦ (h f hf).1, fun f hf ↦ (h f hf).2⟩⟩

/-- A mapping can be written if its own entries can and the others can. -/
theorem isWritable_iff_parts (own : Scalar → Bool) (entries : Fields) :
    (Json.obj entries).isWritable = true ↔
      (Json.obj (ownPart own entries)).isWritable = true ∧
        (Json.obj (otherPart own entries)).isWritable = true := by
  rw [isWritable_obj_iff, isWritable_obj_iff, isWritable_obj_iff]
  constructor
  · exact fun h ↦ ⟨fun f hf ↦ h f (List.mem_filter.1 hf).1, fun f hf ↦ h f (List.mem_filter.1 hf).1⟩
  · rintro ⟨hown, hother⟩ f hf
    cases hkey : own f.1 with
    | true => exact hown f (List.mem_filter.2 ⟨hf, hkey⟩)
    | false => exact hother f (List.mem_filter.2 ⟨hf, by simp [hkey]⟩)

/-! ### Relations between mappings -/

/-- Related mappings have the same values under own keys, of which all or none can be written, and
go on being related if an own key is set. -/
structure Entrywise (own : Scalar → Bool) (E : Fields → Fields → Prop) : Prop where
  get? : ∀ {a b}, E a b → ∀ {key}, own key = true → a.get? key = b.get? key
  set : ∀ {a b}, E a b → ∀ {key}, own key = true → ∀ v, E (a.set key v) (b.set key v)
  isWritable : ∀ {a b}, E a b →
    (Json.obj (ownPart own a)).isWritable = (Json.obj (ownPart own b)).isWritable

/-- The stores have related mappings. If they are in files, what is not their own part can be
written in both or in neither; and the index lists own keys, if it is an own key. -/
structure Related (own : Scalar → Bool) (E : Fields → Fields → Prop) (s t : Store) : Prop where
  entries : E s.entries t.entries
  backing : s.backing = .memory ∧ t.backing = .memory ∨
    s.backing ≠ .memory ∧ t.backing ≠ .memory ∧
      (Json.obj (otherPart own s.entries)).isWritable =
        (Json.obj (otherPart own t.entries)).isWritable
  listed : own indexKey = true → ∀ {records}, s.list indexKey = .ok records → Listing own records

section Entrywise

variable {E : Fields → Fields → Prop}

theorem Entrywise.list (hE : Entrywise own E) (h : E s.entries t.entries) (hkey : own key = true) :
    s.list key = t.list key := by
  rw [Store.list, Store.list, hE.get? h hkey]

/-- Related stores can be written out or not alike. -/
theorem Related.canSave_eq (hE : Entrywise own E) (h : Related own E s t) :
    s.canSave = t.canSave := by
  rcases h.backing with ⟨hs, ht⟩ | ⟨hs, ht, hother⟩
  · simp only [canSave, hs, ht]
  · have hfile (u : Store) (hu : u.backing ≠ .memory) :
        u.canSave = (Json.obj u.entries).isWritable := by
      rw [canSave]
      split
      · exact absurd ‹_› hu
      · rfl
    rw [hfile s hs, hfile t ht, Bool.eq_iff_iff, isWritable_iff_parts own,
      isWritable_iff_parts own t.entries, hE.isWritable h.entries, hother]

theorem Related.assign (hE : Entrywise own E) (h : Related own E s t) (hkey : own key = true)
    (hrecords : key = indexKey → Listing own records) :
    Related own E (s.assign key records) (t.assign key records) where
  entries := hE.set h.entries hkey _
  backing := by
    simp only [Store.assign, otherPart_set hkey]
    exact h.backing
  listed hindex rs hlist := by
    by_cases heq : key = indexKey
    · subst heq
      rw [Store.list, Store.assign, Fields.get?_set_self] at hlist
      dsimp only at hlist
      split at hlist <;> cases hlist
      exact hrecords rfl
    · rw [Store.list, Store.assign, Fields.get?_set_of_ne _ _ (Ne.symm heq), ← Store.list] at hlist
      exact h.listed hindex hlist

theorem Related.flushed (h : Related own E s t) : Related own E s.flushed t.flushed where
  entries := by
    rw [flushed_entries, flushed_entries]
    exact h.entries
  backing := by
    rw [flushed_backing, flushed_backing, Ne, Ne, flushed_backing, flushed_backing,
      flushed_entries, flushed_entries]
    exact h.backing
  listed hindex rs hlist := by
    rw [Store.list, flushed_entries, ← Store.list] at hlist
    exact h.listed hindex hlist

/-- **Operations under own keys respect every relation that setting an own key respects.** -/
theorem Entrywise.confined (hE : Entrywise own E)
    (hindex : ∀ {key}, own key = true → isDayKey key = true → own indexKey = true) :
    Confined own (Related own E) where
  list h _ hkey := hE.list h.entries hkey
  put {key records} hkey hrecords s t h := by
    have hassign := h.assign hE hkey hrecords
    rw [perform_put, perform_put]
    split
    · exact ⟨rfl, h⟩
    · rw [perform_flush, perform_flush, hassign.canSave_eq hE]
      split
      · exact ⟨rfl, hassign.flushed⟩
      · exact ⟨rfl, hassign⟩
  index := hindex
  listed h := h.listed

end Entrywise

/-! ### Agreeing, and leaving the others alone -/

/-- The mappings have the same values under own keys, and no key stands twice. -/
structure SameValues (own : Scalar → Bool) (a b : Fields) : Prop where
  nodup : a.keys.Nodup ∧ b.keys.Nodup
  get? : ∀ key, own key = true → a.get? key = b.get? key

theorem entrywise_sameValues (own : Scalar → Bool) : Entrywise own (SameValues own) where
  get? h key hkey := h.get? key hkey
  set {a b} h key hkey v := by
    refine ⟨⟨Fields.nodup_keys_set h.nodup.1 key v, Fields.nodup_keys_set h.nodup.2 key v⟩, ?_⟩
    intro k hk
    by_cases heq : k = key
    · rw [heq, Fields.get?_set_self, Fields.get?_set_self]
    · rw [Fields.get?_set_of_ne _ _ heq, Fields.get?_set_of_ne _ _ heq, h.get? k hk]
  isWritable {a b} h := by
    -- an entry of one is an entry of the other
    have hmem {c d : Fields} (hc : c.keys.Nodup) (hd : d.keys.Nodup)
        (hsame : ∀ key, own key = true → c.get? key = d.get? key) :
        ∀ f ∈ ownPart own c, f ∈ ownPart own d := by
      intro f hf
      obtain ⟨hf, hkey⟩ := List.mem_filter.1 hf
      have hget := hsame f.1 hkey ▸ Fields.get?_of_mem hc hf
      exact List.mem_filter.2 ⟨Fields.mem_of_get? hget, hkey⟩
    rw [Bool.eq_iff_iff, isWritable_obj_iff, isWritable_obj_iff]
    exact ⟨fun hall f hf ↦ hall f (hmem h.nodup.2 h.nodup.1 (fun k hk ↦ (h.get? k hk).symm) f hf),
      fun hall f hf ↦ hall f (hmem h.nodup.1 h.nodup.2 h.get? f hf)⟩

/-- The mappings have the same entries under own keys, in the same order. -/
def SameEntries (own : Scalar → Bool) (a b : Fields) : Prop := ownPart own a = ownPart own b

theorem entrywise_sameEntries (own : Scalar → Bool) : Entrywise own (SameEntries own) where
  get? {a b} h key hkey := by
    rw [SameEntries] at h
    rw [← get?_ownPart hkey, h, get?_ownPart hkey]
  set {a b} h key hkey v := by
    rw [SameEntries] at h ⊢
    rw [ownPart_set hkey, ownPart_set hkey, h]
  isWritable h := by rw [h]

/-- Both are one mapping, with some entries under other keys. -/
def Leaves (own : Scalar → Bool) (others : Fields) (a b : Fields) : Prop :=
  a = b ∧ otherPart own a = others

theorem entrywise_leaves (own : Scalar → Bool) (others : Fields) :
    Entrywise own (Leaves own others) where
  get? h _ _ := by rw [h.1]
  set h key hkey v := ⟨by rw [h.1], (otherPart_set hkey _ v).trans h.2⟩
  isWritable h := by rw [h.1]

end Organizer.Store
