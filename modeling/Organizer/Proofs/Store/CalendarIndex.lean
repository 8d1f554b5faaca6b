import Mathlib.Data.Set.List
import Organizer.Proofs.Json.Sorting
import Organizer.Proofs.Store.Writing

/-!
# The calendar index

The calendar index says a second time what the mapping says already: which days have events. It is
brought up to date by the change of a day, one day at a time, and is computed from the mapping only
if there is none. `Indexed` is what keeps the two together: the index lists, in order, the days with
records, and no day is too deep to be looked at.

Every operation keeps it (`Indexed.writeRecords`), for a text as a key and whatever the records are.
Records that are no proper JSON change when the store is opened again, but they neither appear nor
vanish, and so the index is kept too (`Indexed.reread`). The outcome is `calendarIndex_run`.
-/

namespace Organizer

open Text

/-- The scalar is a text, and torn only if it has a lone half. -/
def Scalar.IsSpelled (k : Scalar) : Prop := ∃ ps, k = .ofPoints ps

theorem Scalar.isSpelled_text (s : String) : (Scalar.text s).IsSpelled :=
  ⟨s.toList.map .char, by rw [ofPoints_map_char, String.ofList_toList]⟩

namespace Store

open Organizer.Action Json

variable {s t : Store} {entries : Fields} {days : List (List CodePoint)}

/-! ### What the index lists -/

/-- The key is that of a day with records. -/
def HasEvents (entries : Fields) (k : Scalar) : Prop :=
  isDayKey k = true ∧ ∃ r rs, entries.get? k = some (.arr (r :: rs))

/-- The days are in order, and they are the days with records. -/
structure Lists (entries : Fields) (days : List (List CodePoint)) : Prop where
  ascending : Ascending days
  nodup : days.Nodup
  mem_iff : ∀ ps, ps ∈ days ↔ HasEvents entries (.ofPoints ps)

/-- The keys are texts, none stands twice, and no day is too deep to be looked at. -/
structure Sound (entries : Fields) : Prop where
  spelled : ∀ k ∈ entries.keys, k.IsSpelled
  nodup : entries.keys.Nodup
  shallow : ∀ k v, entries.get? k = some v → isDayKey k = true → v.depth ≤ maxKept

/-- The mapping is sound, and its calendar index lists the days with records. -/
structure Indexed (entries : Fields) : Prop extends Sound entries where
  index : ∃ days, entries.get? indexKey = some (.arr (days.map Json.spelled)) ∧ Lists entries days

theorem isDayKey_indexKey : isDayKey indexKey = false := by decide +kernel

theorem ne_indexKey_of_isDayKey {key : Scalar} (h : isDayKey key = true) : key ≠ indexKey := by
  rintro rfl
  rw [isDayKey_indexKey] at h
  cases h

/-- If the days are those with records, so are their keys. -/
theorem mem_ofPoints_iff (h : ∀ ps, ps ∈ days ↔ HasEvents entries (.ofPoints ps))
    (hspelled : ∀ k ∈ entries.keys, k.IsSpelled) {k : Scalar} :
    k ∈ days.map Scalar.ofPoints ↔ HasEvents entries k := by
  constructor
  · intro hk
    obtain ⟨ps, hps, rfl⟩ := List.mem_map.1 hk
    exact (h ps).1 hps
  · intro hk
    obtain ⟨-, r, rs, hget⟩ := id hk
    obtain ⟨ps, rfl⟩ := hspelled k (Fields.mem_keys_of_get? hget)
    exact List.mem_map_of_mem ((h ps).2 hk)

theorem depth_map_spelled (days : List (List CodePoint)) :
    (Json.arr (days.map Json.spelled)).depth ≤ maxKept := by
  have hitems : depthOfItems (days.map Json.spelled) = 0 := by
    induction days with
    | nil => rfl
    | cons ps days ih => simp [depthOfItems, Json.spelled, depth, ih]
  rw [depth, hitems]
  decide

theorem list_of_get? {key : Scalar} {records : List Json}
    (hget : s.entries.get? key = some (.arr records))
    (hdepth : (Json.arr records).depth ≤ maxKept) : s.list key = .ok records := by
  rw [list, hget]
  simp only [Nat.not_lt.2 hdepth, if_false]

/-- What is handed out is not too deep. -/
theorem depth_of_list {key : Scalar} {records : List Json} (h : s.list key = .ok records) :
    (Json.arr records).depth ≤ maxKept := by
  rw [list] at h
  split at h
  · cases h
    decide
  · split at h
    · cases h
    · split at h <;> cases h
      · exact Nat.not_lt.1 ‹_›
      · decide

/-- A list of records that is not empty is there, and not too deep. -/
theorem list_eq_cons {key : Scalar} {r : Json} {rs : List Json} :
    s.list key = .ok (r :: rs) ↔
      s.entries.get? key = some (.arr (r :: rs)) ∧ (Json.arr (r :: rs)).depth ≤ maxKept := by
  constructor
  · intro h
    rw [list] at h
    split at h
    · cases h
    · rename_i v hget
      split at h
      · cases h
      · rename_i hdepth
        split at h <;> cases h
        exact ⟨hget, Nat.not_lt.1 hdepth⟩
  · exact fun ⟨hget, hdepth⟩ ↦ list_of_get? hget hdepth

/-- The days are read off the index. -/
theorem days_of_index (hindex : s.entries.get? indexKey = some (.arr (days.map Json.spelled)))
    (hlists : Lists s.entries days) : s.days = .ok (days.map Json.spelled) := by
  rw [Store.days, list_of_get? hindex (depth_map_spelled days), ok_bind, sorted,
    sort?_of_ascending hlists.ascending]

/-! ### Keeping track of a day -/

/-- The days with one day added or taken away, still in order. -/
structure Tracked (days days' : List (List CodePoint)) (ps : List CodePoint) (active : Bool) :
    Prop where
  ascending : Ascending days'
  nodup : days'.Nodup
  mem_iff : ∀ qs, qs ∈ days' ↔ if qs = ps then active = true else qs ∈ days

section Tracked

variable {days' : List (List CodePoint)} {ps : List CodePoint} {active : Bool}

/-- If the day is already listed as it should be, the days stay as they are. -/
theorem mem_iff_self (hsame : active = decide (ps ∈ days)) (qs : List CodePoint) :
    qs ∈ days ↔ if qs = ps then active = true else qs ∈ days := by
  split
  · subst qs
    rw [hsame, decide_eq_true_iff]
  · exact .rfl

theorem tracked_self (hascending : Ascending days) (hnodup : days.Nodup)
    (hsame : active = decide (ps ∈ days)) : Tracked days days ps active :=
  ⟨hascending, hnodup, mem_iff_self hsame⟩

theorem tracked_append (hnodup : days.Nodup) (hnew : ps ∉ days) (hperm : days'.Perm (days ++ [ps]))
    (hascending : Ascending days') : Tracked days days' ps true := by
  refine ⟨hascending, ?_, ?_⟩
  · rw [hperm.nodup_iff]
    exact hnodup.append (List.nodup_singleton ps) (by simpa using hnew)
  · intro qs
    rw [hperm.mem_iff, List.mem_append, List.mem_singleton]
    by_cases hqs : qs = ps
    · simp [hqs]
    · simp [hqs]

theorem tracked_filter (hnodup : days.Nodup)
    (hperm : days'.Perm (days.filter fun qs ↦ decide (qs ≠ ps))) (hascending : Ascending days') :
    Tracked days days' ps false := by
  refine ⟨hascending, ?_, ?_⟩
  · rw [hperm.nodup_iff]
    exact hnodup.filter _
  · intro qs
    rw [hperm.mem_iff, List.mem_filter]
    by_cases hqs : qs = ps
    · simp [hqs]
    · simp [hqs]

end Tracked

theorem sorted_spelled (days : List (List CodePoint)) :
    ∃ days', sorted (days.map Json.spelled) = .ok (days'.map Json.spelled) ∧ days'.Perm days ∧
      Ascending days' := by
  obtain ⟨days', hsort, hperm, hascending⟩ := sort?_spelled days
  exact ⟨days', by rw [sorted, hsort], hperm, hascending⟩

theorem mem_map_spelled (days : List (List CodePoint)) (ps : List CodePoint) :
    Json.scalar (.ofPoints ps) ∈ days.map Json.spelled ↔ ps ∈ days :=
  List.mem_map_of_injective spelled_injective

/-- In memory a write that is not too deep succeeds. -/
theorem perform_put_memory (hs : s.backing = .memory) {key : Scalar} {records : List Json}
    (hdepth : (Json.arr records).depth ≤ maxKept) :
    (put key records).perform s = (.ok (), s.assign key records) := by
  rw [perform_put, if_neg (Nat.not_lt.2 hdepth), perform_flush]
  simp only [canSave, flushed, assign, hs, if_true]

theorem contains_map_spelled (days : List (List CodePoint)) (ps : List CodePoint) :
    (days.map Json.spelled).contains (.scalar (.ofPoints ps)) = decide (ps ∈ days) := by
  rw [List.contains_eq_mem]
  exact decide_eq_decide.2 (mem_map_spelled days ps)

/-- An index of texts is looked at and then, if it has to be, made anew. -/
theorem perform_trackDay_eq (hindex : s.entries.get? indexKey = some (.arr (days.map Json.spelled)))
    (hnodup : days.Nodup) (ps : List CodePoint) (active : Bool) :
    (trackDay (.ofPoints ps) active).perform s =
      if active = decide (ps ∈ days) then (.ok (), s)
      else (Action.ofExcept (sorted
        (if active then days.map Json.spelled ++ [.scalar (.ofPoints ps)]
          else (days.map Json.spelled).filter (· != .scalar (.ofPoints ps)))) >>=
            put indexKey).perform s := by
  have hlist : s.list indexKey = .ok (days.map Json.spelled) :=
    list_of_get? hindex (depth_map_spelled days)
  have hscalars : (days.map Json.spelled).any (fun entry ↦ entry.asScalar?.isNone) = false := by
    simp [Json.spelled, asScalar?]
  rw [trackDay, perform_bind, perform_recordsAt, hlist]
  -- whether the index has the day is asked of values, and answered by code points
  simp only [hscalars, Bool.false_eq_true, if_false, distinct_spelled hnodup,
    contains_map_spelled, perform_ite, perform_pure, beq_iff_eq]

/-- The new index, once it is in order. -/
theorem sorted_tracked (hnodup : days.Nodup) {ps : List CodePoint} {active : Bool}
    (hchanged : active ≠ decide (ps ∈ days)) :
    ∃ days', Tracked days days' ps active ∧
      sorted (if active then days.map Json.spelled ++ [.scalar (.ofPoints ps)]
        else (days.map Json.spelled).filter (· != .scalar (.ofPoints ps))) =
          .ok (days'.map Json.spelled) := by
  cases active with
  | true =>
    have hnew : ps ∉ days := by simpa using hchanged
    obtain ⟨days', hsorted, hperm, hascending⟩ := sorted_spelled (days ++ [ps])
    rw [List.map_append] at hsorted
    exact ⟨days', tracked_append hnodup hnew hperm hascending, hsorted⟩
  | false =>
    obtain ⟨days', hsorted, hperm, hascending⟩ :=
      sorted_spelled (days.filter fun qs ↦ decide (qs ≠ ps))
    -- to leave out the text is to leave out its code points
    have hfilter : (days.map Json.spelled).filter (· != .scalar (.ofPoints ps)) =
        (days.filter fun qs ↦ decide (qs ≠ ps)).map Json.spelled := by
      rw [List.filter_map]
      refine congrArg _ (List.filter_congr fun qs _ ↦ ?_)
      rw [Bool.eq_iff_iff, decide_eq_true_iff]
      exact bne_iff_ne.trans spelled_injective.ne_iff
    exact ⟨days', tracked_filter hnodup hperm hascending,
      by rw [if_neg (by simp), hfilter, hsorted]⟩

/-- **A day is kept track of** in an index of texts: the index comes to list it or not, and goes on
listing the others. -/
theorem perform_trackDay (hs : s.backing = .memory)
    (hindex : s.entries.get? indexKey = some (.arr (days.map Json.spelled)))
    (hascending : Ascending days) (hnodup : days.Nodup) (ps : List CodePoint) (active : Bool) :
    ∃ days', Tracked days days' ps active ∧ (trackDay (.ofPoints ps) active).perform s =
      (.ok (), s.assign indexKey (days'.map Json.spelled)) := by
  rw [perform_trackDay_eq hindex hnodup]
  by_cases hsame : active = decide (ps ∈ days)
  · -- the index says so already, and is left alone
    refine ⟨days, tracked_self hascending hnodup hsame, ?_⟩
    rw [if_pos hsame, assign, Fields.set_of_get? hindex]
  · obtain ⟨days', htracked, hsorted⟩ := sorted_tracked hnodup hsame
    refine ⟨days', htracked, ?_⟩
    rw [if_neg hsame, perform_bind, perform_ofExcept, hsorted]
    exact perform_put_memory hs (depth_map_spelled days')

/-! ### Writing records -/

/-- To give a key a value that is no day does not touch the days. -/
theorem hasEvents_set_of_not_day {key : Scalar} (hkey : isDayKey key = false) (v : Json)
    (k : Scalar) : HasEvents (entries.set key v) k ↔ HasEvents entries k := by
  refine and_congr_right fun hk ↦ ?_
  have hne : k ≠ key := by
    rintro rfl
    rw [hkey] at hk
    cases hk
  rw [Fields.get?_set_of_ne _ _ hne]

theorem Lists.set (h : Lists entries days) {key : Scalar} (hkey : isDayKey key = false)
    (v : Json) : Lists (entries.set key v) days :=
  ⟨h.ascending, h.nodup, fun ps ↦ (h.mem_iff ps).trans (hasEvents_set_of_not_day hkey v _).symm⟩

/-- The days with records, once one day has been given other records. -/
theorem mem_iff_of_tracked (h : ∀ ps, ps ∈ days ↔ HasEvents entries (.ofPoints ps))
    {days' : List (List CodePoint)} {ps : List CodePoint} (hday : isDayKey (.ofPoints ps) = true)
    {records : List Json}
    (htracked : ∀ qs, qs ∈ days' ↔ if qs = ps then (!records.isEmpty) = true else qs ∈ days)
    (qs : List CodePoint) :
    qs ∈ days' ↔ HasEvents (entries.set (.ofPoints ps) (.arr records)) (.ofPoints qs) := by
  rw [htracked]
  split
  · subst qs
    rw [HasEvents, Fields.get?_set_self]
    cases records <;> simp [hday]
  · rename_i hne
    rw [h, HasEvents, HasEvents,
      Fields.get?_set_of_ne _ _ fun heq ↦ hne (Scalar.ofPoints_injective heq)]

/-- The index follows a day that has been given other records. -/
theorem Lists.track (h : Lists entries days) {days' : List (List CodePoint)} {ps : List CodePoint}
    (hday : isDayKey (.ofPoints ps) = true) {records : List Json}
    (htracked : Tracked days days' ps (!records.isEmpty)) :
    Lists (entries.set (.ofPoints ps) (.arr records)) days' :=
  ⟨htracked.ascending, htracked.nodup, mem_iff_of_tracked h.mem_iff hday htracked.mem_iff⟩

/-- What is written under a text leaves the keys texts. -/
theorem spelled_set (h : ∀ k ∈ entries.keys, k.IsSpelled) {key : Scalar} (hkey : key.IsSpelled)
    (v : Json) : ∀ k ∈ (entries.set key v).keys, k.IsSpelled := by
  intro k hk
  rw [Fields.keys_set] at hk
  split at hk
  · exact h k hk
  · rcases List.mem_append.1 hk with hk | hk
    · exact h k hk
    · exact List.mem_singleton.1 hk ▸ hkey

/-- What is written under a text and is not too deep leaves the mapping sound. -/
theorem Sound.set (h : Sound entries) {key : Scalar} (hkey : key.IsSpelled) {w : Json}
    (hw : w.depth ≤ maxKept) : Sound (entries.set key w) where
  spelled := spelled_set h.spelled hkey w
  nodup := Fields.nodup_keys_set h.nodup key w
  shallow := by
    intro k v hget hday
    by_cases heq : k = key
    · rw [heq, Fields.get?_set_self] at hget
      exact Option.some.inj hget ▸ hw
    · rw [Fields.get?_set_of_ne _ _ heq] at hget
      exact h.shallow k v hget hday

/-- The index itself is written without harm. -/
theorem Sound.setIndex (h : Sound entries) (days : List (List CodePoint)) :
    Sound (entries.set indexKey (.arr (days.map Json.spelled))) :=
  h.set (Scalar.isSpelled_text indexKey) (depth_map_spelled days)

/-- **The index is kept by a write** to any other key, and in memory the write succeeds. -/
theorem Indexed.writeRecords (h : Indexed s.entries) (hs : s.backing = .memory) {key : Scalar}
    (hkey : key.IsSpelled) (hother : key ≠ indexKey) {records : List Json}
    (hdepth : (Json.arr records).depth ≤ maxKept) :
    ∃ t, (writeRecords key records).perform s = (.ok (), t) ∧ Indexed t.entries := by
  obtain ⟨ps, rfl⟩ := hkey
  obtain ⟨days, hindex, hlists⟩ := h.index
  have hindex' : (s.assign (.ofPoints ps) records).entries.get? indexKey =
      some (.arr (days.map Json.spelled)) :=
    (Fields.get?_set_of_ne _ _ hother.symm).trans hindex
  have hsound : Sound (s.entries.set (.ofPoints ps) (.arr records)) :=
    h.toSound.set ⟨ps, rfl⟩ hdepth
  rw [writeRecords_eq, perform_bind_of_ok (perform_put_memory hs hdepth), followUp,
    isText_ofPoints, Bool.not_true, if_neg (by simp)]
  by_cases hday : isDayKey (.ofPoints ps) = true
  · -- a day: the old index is read from the new mapping, where it stands untouched
    rw [if_pos hday]
    obtain ⟨days', htracked, htrack⟩ := perform_trackDay (s := s.assign (.ofPoints ps) records) hs
      hindex' hlists.ascending hlists.nodup ps (!records.isEmpty)
    have hlists' := (hlists.track hday htracked).set isDayKey_indexKey
      (.arr (days'.map Json.spelled))
    exact ⟨_, htrack, hsound.setIndex days', days', Fields.get?_set_self .., hlists'⟩
  · -- another key: the first write is the last, and no day has changed
    rw [if_neg hday]
    exact ⟨_, rfl, hsound, days, hindex', hlists.set (Bool.not_eq_true _ ▸ hday) _⟩

/-! ### Opening again -/

theorem rereadFields_of_isText {fs : Fields} (h : ∀ k ∈ fs.keys, k.isText = true) :
    rereadFields fs = fs.map fun f ↦ (f.1, reread f.2) := by
  induction fs with
  | nil => rfl
  | cons f fs ih =>
    obtain ⟨k, v⟩ := f
    rw [rereadFields, rereadName, if_pos (h k List.mem_cons_self), List.map_cons,
      ih fun k hk ↦ h k (List.mem_cons_of_mem _ hk)]

theorem rereadItems_spelled (days : List (List CodePoint)) :
    rereadItems (days.map Json.spelled) = days.map Json.spelled := by
  induction days with
  | nil => rfl
  | cons ps days ih => rw [List.map_cons, rereadItems, ih, Json.spelled, reread]

theorem reread_eq_cons {v : Json} :
    (∃ r rs, reread v = .arr (r :: rs)) ↔ ∃ r rs, v = .arr (r :: rs) := by
  cases v with
  | scalar x => simp [reread]
  | arr xs => cases xs <;> simp [reread, rereadItems]
  | obj fs => simp [reread]

/-- What is found of a mapping of texts: each record as the reader makes it. -/
theorem rereadEntries_eq_map (hspelled : ∀ k ∈ entries.keys, k.IsSpelled)
    (hnodup : entries.keys.Nodup) :
    rereadEntries entries = entries.map fun f ↦ (f.1, Json.reread f.2) := by
  have htexts : ∀ k ∈ entries.keys, k.isText = true := by
    intro k hk
    obtain ⟨ps, rfl⟩ := hspelled k hk
    exact isText_ofPoints ps
  rw [rereadEntries, rereadFields_of_isText htexts]
  refine Fields.ofList_of_nodup (?_ : (Fields.keys _).Nodup)
  rw [Fields.keys_map]
  exact hnodup

/-- Records may change on the way to the file and back, but they neither appear nor vanish. -/
theorem hasEvents_map_reread (entries : Fields) (k : Scalar) :
    HasEvents (entries.map fun f ↦ (f.1, Json.reread f.2)) k ↔ HasEvents entries k := by
  rw [HasEvents, HasEvents, Fields.get?_map]
  refine and_congr_right fun _ ↦ ?_
  cases entries.get? k with
  | none => simp
  | some v => simpa using reread_eq_cons

/-- An index of texts is found as it was. -/
theorem get?_map_reread (hindex : entries.get? indexKey = some (.arr (days.map Json.spelled))) :
    Fields.get? (entries.map fun f ↦ (f.1, Json.reread f.2)) indexKey =
      some (.arr (days.map Json.spelled)) := by
  rw [Fields.get?_map, hindex, Option.map_some, Json.reread, rereadItems_spelled]

/-- **The index is kept by the file**, even if records change on the way. -/
theorem Indexed.reread (h : Indexed entries) : Indexed (rereadEntries entries) := by
  obtain ⟨days, hindex, hlists⟩ := h.index
  rw [rereadEntries_eq_map h.spelled h.nodup]
  refine ⟨⟨?_, ?_, ?_⟩, days, get?_map_reread hindex, hlists.ascending, hlists.nodup, ?_⟩
  · rw [Fields.keys_map]
    exact h.spelled
  · rw [Fields.keys_map]
    exact h.nodup
  · intro k v hget hday
    rw [Fields.get?_map] at hget
    obtain ⟨w, hw, rfl⟩ := Option.map_eq_some_iff.1 hget
    exact Nat.le_trans (depth_reread_le w) (h.shallow k w hw hday)
  · exact fun ps ↦ (hlists.mem_iff ps).trans (hasEvents_map_reread entries _).symm

/-! ### Opening -/

theorem filterAuxM_eq_ok {α : Type} {f : α → Except Failure Bool} {xs acc ys : List α}
    (h : xs.filterAuxM f acc = .ok ys) :
    (∀ x ∈ xs, ∃ b, f x = .ok b) ∧
      ys = (xs.filter fun x ↦ decide (f x = .ok true)).reverse ++ acc := by
  induction xs generalizing acc with
  | nil =>
    cases h
    exact ⟨by simp, rfl⟩
  | cons x xs ih =>
    obtain ⟨b, hb, h⟩ := bind_eq_ok h
    obtain ⟨hall, rfl⟩ := ih h
    refine ⟨?_, ?_⟩
    · intro y hy
      rcases List.mem_cons.1 hy with rfl | hy
      · exact ⟨b, hb⟩
      · exact hall y hy
    · cases b <;> simp [hb]

/-- Of a filter that may fail but has not. -/
theorem filterM_eq_ok {α : Type} {f : α → Except Failure Bool} {xs ys : List α}
    (h : xs.filterM f = .ok ys) :
    (∀ x ∈ xs, ∃ b, f x = .ok b) ∧ ys = xs.filter fun x ↦ decide (f x = .ok true) := by
  obtain ⟨kept, hkept, h⟩ := bind_eq_ok h
  obtain ⟨hall, rfl⟩ := filterAuxM_eq_ok hkept
  cases h
  exact ⟨hall, by rw [List.append_nil, List.reverse_reverse]⟩

theorem isActive_eq_ok {k : Scalar} {b : Bool} (h : s.isActive k = .ok b) :
    ∃ records, s.list k = .ok records ∧ b = !records.isEmpty := by
  rw [isActive] at h
  cases hlist : s.list k with
  | error e =>
    rw [hlist] at h
    cases h
  | ok records =>
    rw [hlist] at h
    exact ⟨records, rfl, (Except.ok.inj h).symm⟩

/-- **The index that is made when a store is opened** lists the days with records. -/
theorem lists_of_activeDays (hspelled : ∀ k ∈ s.entries.keys, k.IsSpelled)
    (hnodup : s.entries.keys.Nodup) {xs : List Json} (h : s.activeDays = .ok xs) :
    Sound s.entries ∧ ∃ days, xs = days.map Json.spelled ∧ Lists s.entries days := by
  obtain ⟨active, hactive, hsorted⟩ := bind_eq_ok h
  obtain ⟨hall, rfl⟩ := filterM_eq_ok hactive
  -- each day has been looked at, which fails for one that is too deep
  have hshallow : ∀ k v, s.entries.get? k = some v → isDayKey k = true → v.depth ≤ maxKept := by
    intro k v hget hday
    obtain ⟨b, hb⟩ := hall k (List.mem_filter.2 ⟨Fields.mem_keys_of_get? hget, hday⟩)
    obtain ⟨records, hlist, -⟩ := isActive_eq_ok hb
    by_contra hdeep
    rw [list, hget] at hlist
    simp only [Nat.lt_of_not_le hdeep, if_true] at hlist
    cases hlist
  refine ⟨⟨hspelled, hnodup, hshallow⟩, ?_⟩
  -- the active keys are those with events: texts, and so days by their code points
  have hkeys (k : Scalar) : k ∈ (s.entries.keys.filter isDayKey).filter
      (fun k ↦ decide (s.isActive k = .ok true)) ↔ HasEvents s.entries k := by
    simp only [List.mem_filter, decide_eq_true_eq, HasEvents]
    constructor
    · rintro ⟨⟨-, hday⟩, hactive⟩
      obtain ⟨_ | ⟨r, rs⟩, hlist, htrue⟩ := isActive_eq_ok hactive
      · exact absurd htrue (by simp)
      · exact ⟨hday, r, rs, (list_eq_cons.1 hlist).1⟩
    · rintro ⟨hday, r, rs, hget⟩
      refine ⟨⟨Fields.mem_keys_of_get? hget, hday⟩, ?_⟩
      rw [isActive, list_of_get? hget (hshallow k _ hget hday)]
      rfl
  obtain ⟨pss, hpss⟩ : (s.entries.keys.filter isDayKey).filter
      (fun k ↦ decide (s.isActive k = .ok true)) ∈ Set.range (List.map Scalar.ofPoints) := by
    rw [Set.range_list_map]
    intro k hk
    obtain ⟨-, r, rs, hget⟩ := (hkeys k).1 hk
    obtain ⟨ps, rfl⟩ := hspelled k (Fields.mem_keys_of_get? hget)
    exact ⟨ps, rfl⟩
  rw [← hpss] at hsorted hkeys
  obtain ⟨days, hdays, hperm, hascending⟩ := sorted_spelled pss
  rw [map_scalar_ofPoints, hdays] at hsorted
  refine ⟨days, (Except.ok.inj hsorted).symm, hascending, ?_, ?_⟩
  · rw [hperm.nodup_iff]
    exact List.Nodup.of_map Scalar.ofPoints (hpss ▸ (hnodup.filter _).filter _)
  · intro ps
    rw [hperm.mem_iff, ← hkeys]
    exact (List.mem_map_of_injective Scalar.ofPoints_injective).symm

/-! ### Runs -/

/-- The index is right, and it is right in what is found if the store is opened again. -/
structure Kept (s : Store) : Prop where
  indexed : Indexed s.entries
  onDisk : ∃ entries, s.onDisk = .ok entries ∧ Indexed entries

theorem Indexed.isSome (h : Indexed entries) : (entries.get? indexKey).isSome = true := by
  obtain ⟨days, hindex, -⟩ := h.index
  rw [hindex]
  rfl

theorem Kept.of_inStep (h : Indexed s.entries) (hstep : s.InStep) (hsave : s.canSave = true) :
    Kept s := by
  refine ⟨h, _, onDisk_of_inStep hstep hsave, ?_⟩
  split
  · exact h
  · exact h.reread

theorem Kept.reopen (h : Kept s) : ∃ t, s.reopen = .ok t ∧ Kept t := by
  obtain ⟨entries, hdisk, hindexed⟩ := h.onDisk
  obtain ⟨t, ht, hentries, hdisk', -⟩ := reopen_of_onDisk hdisk hindexed.isSome
  exact ⟨t, ht, hentries ▸ hindexed, entries, hdisk', hindexed⟩

/-- An operation is about a text that is not the key of the index. -/
def Operation.Foreign (o : Operation) : Prop :=
  ∀ key, o.key? = some key → key.IsSpelled ∧ key ≠ indexKey

theorem Kept.perform {o : Operation} (h : Kept s) (ho : o.Foreign) (hlands : o.Lands s) :
    Kept (o.perform s).2 := by
  by_cases hwrites : o.Writes s
  · -- the new mapping is the one that the same operation leads to in memory
    refine .of_inStep ?_ (Operation.inStep_perform hlands hwrites) (hlands hwrites)
    have hmemory := Operation.perform_inMemory hlands
    obtain ⟨answer, key, records, hplan, hdepth⟩ := hwrites
    obtain ⟨hkey, hother⟩ := ho key (Operation.key?_of_plan hplan)
    obtain ⟨t, hwrite, hindexed⟩ :=
      Indexed.writeRecords (s := s.inMemory) h.indexed rfl hkey hother hdepth
    rw [Operation.perform_of_plan ((Operation.plan_inMemory o s).trans hplan), hwrite] at hmemory
    have hentries : t.entries = (o.perform s).2.inMemory.entries :=
      congrArg (fun r ↦ r.2.entries) hmemory
    exact hentries ▸ hindexed
  · obtain ⟨r, hfile, -⟩ := Operation.perform_of_not_writes hwrites
    rw [hfile]
    exact h

theorem Kept.after (h : Kept s) {events : List Event}
    (hforeign : ∀ o, .operation o ∈ events → o.Foreign) (hlands : s.Lands events) :
    Kept (s.after events) := by
  induction events generalizing s with
  | nil => exact h
  | cons event events ih =>
    have hrest : ∀ o, .operation o ∈ events → o.Foreign :=
      fun o ho ↦ hforeign o (List.mem_cons_of_mem _ ho)
    cases event with
    | operation o =>
      obtain ⟨hland, hlands⟩ := hlands
      exact ih (h.perform (hforeign o List.mem_cons_self) hland) hrest hlands
    | reopen =>
      obtain ⟨t, ht, hkept⟩ := h.reopen
      have hnext : s.next .reopen = t := by rw [next, ht]
      rw [Lands, hnext] at hlands
      show Kept ((s.next .reopen).after events)
      rw [hnext]
      exact ih hkept hrest hlands

/-- A store has been opened on a mapping: in memory, from the text of a file that holds it, or
without a file. -/
inductive Opens (entries : Fields) (s : Store) : Prop
  | memory (h : ofEntries entries = .ok s)
  | text {text : String} (hentries : entriesOf text = .ok entries) (h : ofText text = .ok s)
  | missing (hentries : entries = []) (h : ofFile none = .ok s)

theorem Opens.exists_withIndex (h : Opens entries s) :
    ∃ u : Store, u.entries = entries ∧ u.onDisk = .ok entries ∧ withIndex u = .ok s := by
  cases h with
  | memory h => exact ⟨_, rfl, rfl, h⟩
  | @text text hentries h =>
    refine ⟨{ entries, backing := .file [text] }, rfl, hentries, ?_⟩
    rw [← h, ofText, hentries]
    rfl
  | missing hentries h =>
    subst hentries
    exact ⟨_, rfl, rfl, h⟩

/-- A store is opened with a right index if the mapping has none, or a right one. -/
theorem Opens.kept (h : Opens entries s) (hkeys : ∀ k ∈ entries.keys, k.IsSpelled)
    (hnodup : entries.keys.Nodup)
    (hindex : entries.get? indexKey = none ∨ ∃ days,
      activeDays { entries, backing := .memory } = .ok days ∧
        entries.get? indexKey = some (.arr days)) : Kept s := by
  obtain ⟨u, rfl, hdisk, hopen⟩ := h.exists_withIndex
  rcases withIndex_cases hopen with ⟨hsome, rfl⟩ | ⟨-, xs, hactive, hsave, rfl⟩
  · rcases hindex with hnone | ⟨xs, hactive, hget⟩
    · rw [hnone] at hsome
      exact absurd hsome (by simp)
    · -- the old index is the one that would have been made
      obtain ⟨hsound, days, rfl, hlists⟩ := lists_of_activeDays hkeys hnodup hactive
      have hindexed : Indexed s.entries := ⟨hsound, days, hget, hlists⟩
      exact ⟨hindexed, _, hdisk, hindexed⟩
  · obtain ⟨hsound, days, rfl, hlists⟩ := lists_of_activeDays hkeys hnodup hactive
    refine .of_inStep ?_ (inStep_flushed _) ((canSave_flushed _).trans hsave)
    rw [flushed_entries]
    exact ⟨hsound.setIndex days, days, Fields.get?_set_self .., hlists.set isDayKey_indexKey _⟩

/-- **The calendar index is right after every run.** A store is opened on a mapping with texts as
keys whose calendar index is missing or right. Whatever is asked of it under other keys, refused or
not, and however often it is opened again: its index is the list of the days with records, in strict
order and hence without repetitions, and the store can be opened again. -/
theorem calendarIndex_run (hopen : Opens entries s) (hkeys : ∀ k ∈ entries.keys, k.IsSpelled)
    (hnodup : entries.keys.Nodup)
    (hindex : entries.get? indexKey = none ∨ ∃ days,
      activeDays { entries, backing := .memory } = .ok days ∧
        entries.get? indexKey = some (.arr days))
    (events : List Event) (hforeign : ∀ o, .operation o ∈ events → o.Foreign)
    (hlands : s.Lands events) :
    ∃ days : List Scalar,
      (s.after events).entries.get? indexKey = some (.arr (days.map .scalar)) ∧
      (s.after events).days = .ok (days.map .scalar) ∧
      days.Pairwise (fun a b ↦ a.before? b = some true) ∧ days.Nodup ∧
      (∀ k, k ∈ days ↔ isDayKey k = true ∧ ∃ r rs, (s.after events).list k = .ok (r :: rs)) ∧
      ∃ t, (s.after events).reopen = .ok t := by
  have hkept := (hopen.kept hkeys hnodup hindex).after hforeign hlands
  obtain ⟨pss, hget, hlists⟩ := hkept.indexed.index
  refine ⟨pss.map .ofPoints, by rw [map_scalar_ofPoints, hget], ?_, ?_, ?_, ?_, ?_⟩
  · rw [map_scalar_ofPoints, days_of_index hget hlists]
  · refine List.pairwise_map.2 ((hlists.ascending.strict hlists.nodup).imp fun hlt ↦ ?_)
    rw [Scalar.before?_ofPoints, decide_eq_true hlt]
  · exact hlists.nodup.map Scalar.ofPoints_injective
  · intro k
    have hevents : HasEvents (s.after events).entries k ↔
        isDayKey k = true ∧ ∃ r rs, (s.after events).list k = .ok (r :: rs) := by
      refine and_congr_right fun hday ↦ exists_congr fun r ↦ exists_congr fun rs ↦ ?_
      rw [list_eq_cons]
      exact ⟨fun h ↦ ⟨h, hkept.indexed.shallow k _ h hday⟩, And.left⟩
    rw [← hevents]
    exact mem_ofPoints_iff hlists.mem_iff hkept.indexed.spelled
  · obtain ⟨t, ht, -⟩ := hkept.reopen
    exact ⟨t, ht⟩

/-- A day is emptied, the file is opened again, and another day is filled. To empty the first day
once more is refused. -/
theorem calendarIndex_run_emptied :
    ∃ s : Store, ofText "\x7b\"cal-260105\": [\"dentist\"]\x7d" = .ok s ∧
      ∃ days : List Scalar,
        (s.after [.operation (.removeAt "cal-260105" (.int 1)), .reopen,
          .operation (.append "cal-260101" (.str "walk")),
          .operation (.removeAt "cal-260105" (.int 1))]).days = .ok (days.map .scalar) ∧
        days.Nodup := by
  have hopen : ofText "\x7b\"cal-260105\": [\"dentist\"]\x7d" =
      .ok ⟨[("cal-260105", .arr [.str "dentist"]), (indexKey, .arr [.str "cal-260105"])],
        .file [textOf [("cal-260105", .arr [.str "dentist"]), (indexKey, .arr [.str "cal-260105"])],
          "\x7b\"cal-260105\": [\"dentist\"]\x7d"]⟩ := by decide +kernel
  have hentries : entriesOf "\x7b\"cal-260105\": [\"dentist\"]\x7d" =
      .ok [("cal-260105", .arr [.str "dentist"])] := by decide +kernel
  obtain ⟨days, -, hdays, -, hnodup, -⟩ := calendarIndex_run (.text hentries hopen)
    (fun k hk ↦ List.mem_singleton.1 hk ▸ Scalar.isSpelled_text _) (List.nodup_singleton _)
    (.inl rfl)
    [.operation (.removeAt "cal-260105" (.int 1)), .reopen,
      .operation (.append "cal-260101" (.str "walk")), .operation (.removeAt "cal-260105" (.int 1))]
    (fun o ho key hkey ↦ by
      simp only [List.mem_cons, Event.operation.injEq, reduceCtorEq, List.not_mem_nil, or_false,
        false_or] at ho
      rcases ho with rfl | rfl | rfl <;> cases hkey <;>
        exact ⟨Scalar.isSpelled_text _, by decide +kernel⟩)
    ⟨fun _ ↦ by decide +kernel, fun _ ↦ by decide +kernel, fun _ ↦ by decide +kernel, trivial⟩
  exact ⟨_, hopen, days, hdays, hnodup⟩

end Store

end Organizer
