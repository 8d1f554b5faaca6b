import Organizer.Proofs.Store.Series

/-!
# Writes that fail

A change of a calendar day takes two writes, and the second can fail when the first has been carried
out. There is no way back from a write. But the second can fail for one reason only, that the
calendar index cannot be brought up to date: it has entries that are no texts or is too deep to be
looked at. An index of texts is `Trackable`, and in memory nothing fails on one
(`exists_perform_followUp`, `exists_perform_writeAll`).

In a file a write also fails if the mapping cannot be written out. Then it is the first write of a
change that fails (`exists_perform_followUp_of_put`), and the file is as it was
(`eq_or_unsaved_of_operation`).
-/

namespace Organizer.Store

open Organizer.Action Json

variable {s t : Store} {key : Scalar} {records : List Json} {e : Failure}

/-- The calendar index can be brought up to date: it has no entries but texts. -/
def Trackable (s : Store) : Prop :=
  ∃ days : List (List Text.CodePoint), s.list indexKey = .ok (days.map Json.spelled)

/-- What is not at the key of the index does not matter. -/
theorem Trackable.assign (h : s.Trackable)
    (hkey : key = indexKey → ∃ days : List (List Text.CodePoint), records = days.map Json.spelled) :
    (s.assign key records).Trackable := by
  obtain ⟨days, hdays⟩ := h
  by_cases heq : key = indexKey
  · obtain ⟨days', rfl⟩ := hkey heq
    exact ⟨days', list_of_get? (heq ▸ Fields.get?_set_self ..) (depth_map_spelled days')⟩
  · refine ⟨days, ?_⟩
    rw [list, Store.assign, Fields.get?_set_of_ne _ _ (Ne.symm heq), ← list, hdays]

/-- Texts without repetitions are texts. -/
theorem exists_distinct_spelled (days : List (List Text.CodePoint)) :
    ∃ days' : List (List Text.CodePoint),
      distinct (days.map Json.spelled) = days'.map Json.spelled := by
  have hrange : distinct (days.map Json.spelled) ∈ Set.range (List.map Json.spelled) := by
    rw [Set.range_list_map]
    intro x hx
    obtain ⟨ps, -, rfl⟩ := List.mem_map.1 (mem_of_distinct hx)
    exact ⟨ps, rfl⟩
  obtain ⟨days', hdays'⟩ := hrange
  exact ⟨days', hdays'.symm⟩

/-- **In memory a day can be kept track of** in any index of texts. -/
theorem exists_perform_trackDay (hs : s.backing = .memory) (h : s.Trackable)
    (ps : List Text.CodePoint) (active : Bool) :
    ∃ t, (trackDay (.ofPoints ps) active).perform s = (.ok (), t) ∧ t.Trackable := by
  obtain ⟨days, hdays⟩ := id h
  obtain ⟨old, hold⟩ := exists_distinct_spelled days
  have hscalars : (days.map Json.spelled).any (fun entry ↦ entry.asScalar?.isNone) = false := by
    simp [Json.spelled, asScalar?]
  rw [trackDay, perform_bind, perform_recordsAt, hdays]
  simp only [hscalars, hold, Bool.false_eq_true, if_false, perform_ite, perform_pure]
  split
  · exact ⟨s, rfl, h⟩
  · -- whether the day comes in or goes, the new index is one of texts
    obtain ⟨days', hdays'⟩ : ∃ days' : List (List Text.CodePoint),
        (if active = true then old.map Json.spelled ++ [.scalar (.ofPoints ps)]
          else (old.map Json.spelled).filter (· != .scalar (.ofPoints ps))) =
        days'.map Json.spelled := by
      cases active with
      | true => exact ⟨old ++ [ps], by simp [Json.spelled]⟩
      | false => exact ⟨_, by rw [if_neg (by simp), List.filter_map]⟩
    obtain ⟨new, hnew, -, -⟩ := sorted_spelled days'
    rw [hdays', perform_bind, perform_ofExcept, hnew]
    exact ⟨_, perform_put_memory hs (depth_map_spelled new), h.assign fun _ ↦ ⟨new, rfl⟩⟩

/-- **In memory what follows a write succeeds** if, for a day, the index can be brought up to
date. -/
theorem exists_perform_followUp (hs : s.backing = .memory) (hkey : key.IsSpelled)
    (hday : isDayKey key = true → s.Trackable) (records : List Json) :
    ∃ t, (followUp key records).perform s = (.ok (), t) ∧ (s.Trackable → t.Trackable) := by
  obtain ⟨ps, rfl⟩ := hkey
  rw [followUp, isText_ofPoints, Bool.not_true, if_neg (by simp)]
  by_cases hisDay : isDayKey (.ofPoints ps) = true
  · rw [if_pos hisDay]
    obtain ⟨t, htrack, ht⟩ := exists_perform_trackDay hs (hday hisDay) ps (!records.isEmpty)
    exact ⟨t, htrack, fun _ ↦ ht⟩
  · rw [if_neg hisDay]
    exact ⟨s, rfl, id⟩

/-- The mapping can be written out with the key, and so no part of it stands in the way. -/
theorem preserves_followUp (hkey : key.isWritable = true) :
    Preserves Writable (followUp key records) :=
  .ite (fun _ ↦ .fail) fun _ ↦
    .ite (fun hday ↦ recordwise_writable.trackDay hkey hday _) fun _ ↦ .pure trivial

/-- If the first write of a change has succeeded, so does what follows it. -/
theorem exists_perform_followUp_of_put {u : Store}
    (hput : (put key records).perform s = (.ok (), u)) (hkey : key.IsSpelled)
    (hday : isDayKey key = true → s.Trackable) :
    ∃ t, (followUp key records).perform u = (.ok (), t) := by
  obtain ⟨-, hsave, rfl⟩ := perform_put_eq_ok.1 hput
  have htrackable : isDayKey key = true → (s.assign key records).flushed.inMemory.Trackable := by
    intro hisDay
    rw [inMemory_flushed]
    exact (hday hisDay).assign fun heq ↦ absurd heq (ne_indexKey_of_isDayKey hisDay)
  obtain ⟨t, hmemory, -⟩ := exists_perform_followUp rfl hkey htrackable records
  rw [← canSave_flushed] at hsave
  by_cases hs : (s.assign key records).flushed.backing = .memory
  · rw [inMemory, ← hs] at hmemory
    exact ⟨t, hmemory⟩
  · -- the mapping has been written out, with the key in it
    have hwritable := writable_of_canSave hsave hs
    have hget : (s.assign key records).flushed.entries.get? key = some (.arr records) := by
      rw [flushed_entries]
      exact Fields.get?_set_self ..
    have hkey := (allScalarsOfFields_iff.1 (writable_iff.1 hwritable).1 _
      (Fields.mem_of_get? hget)).1
    exact (faithful_followUp key records).perform_eq_ok (preserves_followUp hkey) hmemory hsave

/-- What cannot be put under a key changes nothing or only the mapping. -/
theorem eq_or_unsaved_of_put (h : (put key records).perform s = (.error e, t)) :
    t = s ∨ t.canSave = false ∧ t.backing = s.backing := by
  rw [perform_put] at h
  split at h
  · cases h
    exact .inl rfl
  · rw [perform_flush] at h
    split at h <;> cases h
    exact .inr ⟨Bool.not_eq_true _ ▸ ‹_›, rfl⟩

/-- The index can be brought up to date about the key of an operation. -/
def Operation.Trackable (o : Operation) (s : Store) : Prop :=
  ∀ key, o.key? = some key → key.IsSpelled ∧ (isDayKey key = true → s.Trackable)

end Organizer.Store
