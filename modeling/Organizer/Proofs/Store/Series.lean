import Organizer.Proofs.Json.Readable
import Organizer.Proofs.Store.Holding

/-!
# Series of writes

Some changes consist of many writes, one after the other, each of which may bring the calendar index
up to date. `Wrote` says what they lead to together: the records stand under their keys, and of all
other keys only that of the index may have other records. In memory a series succeeds, and leaves
the index right if it was right (`Indexed.writeAll`). In a file it succeeds as well if the mapping
could be written before and nothing is written that cannot be (`Faithful.perform_eq_ok`).
-/

namespace Organizer.Store

open Organizer.Action Json

variable {α : Type} {s t : Store} {entries : Fields} {key : Scalar} {records : List Json}
  {writes : List (Scalar × List Json)}

/-- Writes records under keys, one after the other. -/
def writeAll (writes : List (Scalar × List Json)) : Action Store Unit :=
  writes.forM fun w ↦ writeRecords w.1 w.2

/-! ### What is where afterwards -/

theorem entries_of_put_eq_ok (h : (put key records).perform s = (.ok (), t)) :
    t.entries = s.entries.set key (.arr records) := by
  obtain ⟨-, -, rfl⟩ := perform_put_eq_ok.1 h
  exact flushed_entries _

/-- What follows a write changes the index and nothing else. -/
theorem get?_of_followUp {r : Except Failure Unit} (h : (followUp key records).perform s = (r, t))
    {k : Scalar} (hk : k ≠ indexKey) : t.entries.get? k = s.entries.get? k := by
  rw [followUp, perform_ite, perform_ite, perform_fail, perform_pure] at h
  split at h
  · cases h
    rfl
  · split at h
    · rcases trackDay_cases h with rfl | ⟨days, -, hput⟩
      · rfl
      · rcases entries_of_put hput with heq | heq <;> rw [heq]
        exact Fields.get?_set_of_ne _ _ hk
    · cases h
      rfl

/-- The records stand under their keys, and the other keys, but for the index, are as before. -/
structure Wrote (entries : Fields) (writes : List (Scalar × List Json)) (entries' : Fields) :
    Prop where
  written : ∀ w ∈ writes, entries'.get? w.1 = some (.arr w.2)
  others : ∀ k : Scalar, k ∉ writes.map (·.1) → k ≠ indexKey →
    entries'.get? k = entries.get? k

theorem wrote_nil (entries : Fields) : Wrote entries [] entries :=
  ⟨List.forall_mem_nil _, fun _ _ _ ↦ rfl⟩

theorem wrote_cons {entries' : Fields} (hother : key ≠ indexKey)
    (hwrite : (writeRecords key records).perform s = (.ok (), t)) (hnew : key ∉ writes.map (·.1))
    (h : Wrote t.entries writes entries') :
    Wrote s.entries ((key, records) :: writes) entries' := by
  rw [writeRecords_eq] at hwrite
  obtain ⟨x, u, hput, hfollow⟩ := perform_bind_eq_ok.1 hwrite
  have hu := entries_of_put_eq_ok hput
  constructor
  · intro w hw
    rcases List.mem_cons.1 hw with rfl | hw
    · rw [h.others _ hnew hother, get?_of_followUp hfollow hother, hu, Fields.get?_set_self]
    · exact h.written w hw
  · intro k hk hindex
    obtain ⟨hne, hrest⟩ := not_or.1 (mt List.mem_cons.2 hk)
    rw [h.others k hrest hindex, get?_of_followUp hfollow hindex, hu,
      Fields.get?_set_of_ne _ _ hne]

/-! ### In memory -/

/-- **A series of writes in memory succeeds** and leaves the index right. -/
theorem Indexed.writeAll (h : Indexed s.entries) (hs : s.backing = .memory)
    (hnodup : (writes.map (·.1)).Nodup)
    (hwrites : ∀ w ∈ writes,
      w.1.IsSpelled ∧ w.1 ≠ indexKey ∧ (Json.arr w.2).depth ≤ maxKept) :
    ∃ t, (writeAll writes).perform s = (.ok (), t) ∧ Indexed t.entries ∧
      Wrote s.entries writes t.entries := by
  induction writes generalizing s with
  | nil => exact ⟨s, rfl, h, wrote_nil _⟩
  | cons w writes ih =>
    obtain ⟨key, records⟩ := w
    obtain ⟨hspelled, hother, hdepth⟩ := hwrites _ List.mem_cons_self
    obtain ⟨hnew, hnodup⟩ := List.nodup_cons.1 hnodup
    obtain ⟨u, hwrite, hu⟩ := h.writeRecords hs hspelled hother hdepth
    have hmemory : u.backing = .memory := ((faithful_writeRecords key records).backing hwrite).2 hs
    obtain ⟨t, hrest, ht, hwrote⟩ :=
      ih hu hmemory hnodup fun w hw ↦ hwrites w (List.mem_cons_of_mem _ hw)
    exact ⟨t, (perform_bind_of_ok hwrite).trans hrest, ht, wrote_cons hother hwrite hnew hwrote⟩

/-! ### In a file -/

theorem Faithful.forM {β : Type} {xs : List β} {f : β → Action Store PUnit}
    (hf : ∀ x, Faithful (f x)) : Faithful (xs.forM f) := by
  induction xs with
  | nil => exact .pure _
  | cons x xs ih => exact (hf x).bind fun _ ↦ ih

/-- The mapping can be written to a file. -/
def Writable (s : Store) : Prop := (Json.obj s.entries).isWritable = true

theorem Writable.canSave (h : s.Writable) : s.canSave = true := by
  rw [Store.canSave]
  split
  · rfl
  · exact h

theorem writable_of_canSave (h : s.canSave = true) (hfile : s.backing ≠ .memory) :
    s.Writable := by
  rw [canSave] at h
  split at h
  · exact absurd ‹_› hfile
  · exact h

theorem writable_iff : s.Writable ↔
    allScalarsOfFields Scalar.isWritable s.entries = true ∧
      depthOfFields s.entries + 1 ≤ maxWritten := by
  rw [Writable, isWritable, Bool.and_eq_true, decide_eq_true_iff, allScalars, depth]

/-- **Whether a mapping can be written is a matter of single records.** -/
theorem recordwise_writable : Recordwise Writable (fun key ↦ key.isWritable = true)
    (fun _ record ↦ record.allScalars Scalar.isWritable = true) where
  records := by
    intro s key rs hs hlist
    rw [list] at hlist
    split at hlist
    · cases hlist
      exact List.forall_mem_nil _
    · rename_i v hget
      have hv := (allScalarsOfFields_iff.1 (writable_iff.1 hs).1 _ (Fields.mem_of_get? hget)).2
      split at hlist
      · cases hlist
      · split at hlist <;> cases hlist
        · exact allScalarsOfItems_iff.1 hv
        · exact List.forall_mem_nil _
  put := by
    intro key rs hkey hrs s hs
    refine ⟨?_, .anything _⟩
    rw [perform_put]
    split
    · exact hs
    · rename_i hdepth
      obtain ⟨hscalars, hlevels⟩ := writable_iff.1 hs
      have hset : (s.assign key rs).Writable := by
        refine writable_iff.2 ⟨allScalarsOfFields_set hscalars hkey
          (allScalarsOfItems_iff.2 hrs), ?_⟩
        have hfields := depthOfFields_set s.entries key (.arr rs)
        rw [maxWritten, assign] at *
        rw [maxKept] at hdepth
        dsimp only
        omega
      rw [perform_flush]
      split
      · rw [Writable, flushed_entries]
        exact hset
      · exact hset
  index := rfl
  day hkey _ := hkey

/-- An action that puts nothing in that cannot be written leaves a mapping that can be written. -/
theorem Faithful.canSave {a : Action Store α} (ha : Faithful a) (hkeeps : Preserves Writable a)
    (hsave : s.canSave = true) : (a.perform s).2.canSave = true := by
  by_cases hmemory : s.backing = .memory
  · have hbacking : (a.perform s).2.backing = .memory := (ha.backing rfl).2 hmemory
    rw [Store.canSave, hbacking]
  · exact (hkeeps s (writable_of_canSave hsave hmemory)).1.canSave

/-- **An action that is answered in memory is answered in a file**, if the mapping can be written
and the action puts nothing in that cannot be. It then leads to the same mapping. -/
theorem Faithful.perform_eq_ok {a : Action Store α} (ha : Faithful a)
    (hkeeps : Preserves Writable a) {x : α} (h : a.perform s.inMemory = (.ok x, t))
    (hsave : s.canSave = true) :
    ∃ u, a.perform s = (.ok x, u) := by
  have hmirrored := ha.mirrored (r := (a.perform s).1) (t := (a.perform s).2) rfl
    (.inr (ha.canSave hkeeps hsave))
  rw [h] at hmirrored
  exact exists_perform_eq (Prod.mk.inj hmirrored).1.symm

end Organizer.Store
