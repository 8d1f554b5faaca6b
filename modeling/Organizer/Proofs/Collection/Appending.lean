import Organizer.Proofs.Collection.Fitting
import Organizer.Proofs.Store.FailedWrites

/-!
# Records that are added

A record that is added comes last in the list under its key. The list keeps the records that it had,
in their order, and nothing else changes but the calendar index, which follows the days
(`Store.Adds`). On a tidy store this comes off as long as the mapping can be written out
(`Store.Addable.exists_perform`): the calendar index can always be brought up to date, and no list
becomes too deep. What comes of it is then also what is found if the store is opened again.
-/

namespace Organizer.Store

open Organizer.Action Json

variable {s t : Store} {key : Scalar} {record : Json} {records : List Json}

/-- The record can be added under the key. -/
structure Addable (key : Scalar) (record : Json) : Prop where
  isForeign : IsForeign key
  fits : Fits key record
  isWritable : record.allScalars Scalar.isWritable = true
  shallow : record.depth < maxKept
  not_blank : isBlankRecord record = false

/-- The record has been added under the key. -/
structure Adds (s : Store) (key : Scalar) (record : Json) (t : Store) : Prop where
  /-- The earlier records are still there, in their order. -/
  list : ∃ old, s.list key = .ok old ∧ t.list key = .ok (old ++ [record])
  others : ∀ k : Scalar, k ≠ key → k ≠ indexKey → t.entries.get? k = s.entries.get? k
  /-- Only a day concerns the calendar index. -/
  index : isDayKey key = false → t.entries.get? indexKey = s.entries.get? indexKey
  /-- To open the store again changes nothing. -/
  reopens : ∃ u, t.reopen = .ok u ∧ u.entries = t.entries

/-- The index of a tidy store has no entries but texts. -/
theorem Tidy.trackable (h : s.Tidy) : s.Trackable := by
  obtain ⟨index, hlist, hfits⟩ := h.holding.exists_list indexKey
  have hrange : index ∈ Set.range (List.map Json.spelled) := by
    rw [Set.range_list_map]
    intro x hx
    obtain ⟨day, rfl, -⟩ := (hfits x hx).entry rfl
    obtain ⟨ps, hps⟩ := Scalar.isSpelled_text day
    exact ⟨ps, congrArg Json.scalar hps.symm⟩
  obtain ⟨days, rfl⟩ := hrange
  exact ⟨days, hlist⟩

/-- A list does not become too deep by a shallow record. -/
theorem depth_append (hlist : s.list key = .ok records) (hshallow : record.depth < maxKept) :
    (Json.arr (records ++ [record])).depth ≤ maxKept := by
  have hold := depth_of_list hlist
  rw [depth] at hold ⊢
  rw [depthOfItems_append, depthOfItems, depthOfItems]
  omega

theorem faithful_append (key : Scalar) (record : Json) : Faithful (append key record) :=
  .ite _ (.of_readOnly (.refuse _) fun _ ↦ rfl)
    (.bind (.recordsAt key) fun _ ↦ faithful_writeRecords key _)

namespace Addable

theorem ne_indexKey (h : Addable key record) : key ≠ indexKey := by
  obtain ⟨text, rfl, hother⟩ := h.isForeign
  exact mt Scalar.text.inj hother

/-- The list is read, and written with one record more. -/
theorem perform_append (h : Addable key record) (hlist : s.list key = .ok records) :
    (append key record).perform s = (writeRecords key (records ++ [record])).perform s := by
  rw [append, perform_ite, if_neg (by simp [h.not_blank]), perform_bind, perform_recordsAt, hlist]

theorem preserves_writable (h : Addable key record) : Preserves Writable (append key record) := by
  obtain ⟨text, rfl, -⟩ := h.isForeign
  exact recordwise_writable.writewise.append rfl h.isWritable

/-- In memory nothing stands in the way. -/
theorem exists_perform_memory (h : Addable key record) (hs : s.backing = .memory)
    (htrackable : s.Trackable) (hlist : s.list key = .ok records) :
    ∃ t, (append key record).perform s = (.ok (), t) := by
  obtain ⟨text, rfl, -⟩ := id h.isForeign
  obtain ⟨t, hfollow, -⟩ := exists_perform_followUp (s := s.assign text (records ++ [record])) hs
    (Scalar.isSpelled_text text)
    (fun _ ↦ htrackable.assign fun heq ↦ absurd heq h.ne_indexKey) (records ++ [record])
  refine ⟨t, ?_⟩
  rw [h.perform_append hlist, writeRecords_eq,
    perform_bind_of_ok (perform_put_memory hs (depth_append hlist h.shallow)), hfollow]

/-- **What has been added is there, and the rest is as before.** -/
theorem adds (h : Addable key record) (hs : s.Tidy) (hsave : s.canSave = true)
    (happend : (append key record).perform s = (.ok (), t)) : Adds s key record t := by
  obtain ⟨old, hlist, -⟩ := hs.holding.exists_list key
  have hdepth := depth_append hlist h.shallow
  have hwrite : (writeRecords key (old ++ [record])).perform s = (.ok (), t) :=
    (h.perform_append hlist).symm.trans happend
  have hwrote := wrote_cons h.ne_indexKey hwrite List.not_mem_nil (wrote_nil _)
  refine ⟨⟨old, hlist, list_of_get? (hwrote.written _ List.mem_cons_self) hdepth⟩,
    fun k hk ↦ hwrote.others k (by simpa using hk), fun hday ↦ ?_, ?_⟩
  · -- under a key that is no day there is one write, and it is to that key
    obtain ⟨text, rfl, -⟩ := id h.isForeign
    rw [perform_writeRecords_of_not_day rfl hday hdepth, perform_flush] at hwrite
    split at hwrite <;> cases hwrite
    rw [flushed_entries]
    exact Fields.get?_set_of_ne _ _ h.ne_indexKey.symm
  · have htidy := (writewise_tidy.append h.isForeign h.fits s hs).1
    have hsaved := (faithful_append key record).canSave h.preserves_writable hsave
    rw [happend] at htidy hsaved
    have hstep : t.InStep := inStep_writeRecords hwrite (.inl ⟨(), rfl⟩) hdepth
    obtain ⟨u, hreopen, hentries, -⟩ :=
      (Persisted.of_inStep htidy.holding.toProper hstep hsaved).reopen
    exact ⟨u, hreopen, hentries⟩

/-- **A record is added** to a tidy store that can be written out. -/
theorem exists_perform (h : Addable key record) (hs : s.Tidy) (hsave : s.canSave = true) :
    ∃ t, (append key record).perform s = (.ok (), t) ∧ Adds s key record t := by
  obtain ⟨old, hlist, -⟩ := hs.holding.exists_list key
  obtain ⟨u, hmemory⟩ := h.exists_perform_memory (s := s.inMemory) rfl hs.trackable hlist
  obtain ⟨t, happend⟩ :=
    (faithful_append key record).perform_eq_ok h.preserves_writable hmemory hsave
  exact ⟨t, happend, h.adds hs hsave happend⟩

end Addable

end Organizer.Store
