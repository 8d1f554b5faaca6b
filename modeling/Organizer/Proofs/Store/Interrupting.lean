import Organizer.Proofs.Store.FailedWrites

/-!
# Interrupted operations

A file is replaced in one step. A program that is stopped therefore leaves one of the texts that the
file has held, and these are all remembered: an operation puts new texts before the old ones, at
most two (`interrupted_operation`). A store that is opened on the first of two trusts the index that
it finds there, which does not know of the change yet. It lists the days rightly but for the one day
that was about to be entered or removed, and so a program that is stopped between the two writes
loses sight of that day (`not_always_consistent`).

The second write never fails once the first has been carried out, so nothing but a stop can leave
the file in between.
-/

namespace Organizer.Store

open Organizer.Action Json Text

variable {s t : Store} {entries : Fields} {days days' : List (List CodePoint)} {text : String}
  {key : Scalar} {records : List Json}

/-! ### Right indexes -/

/-- The days are those with records, in any order. -/
structure Names (entries : Fields) (days : List (List CodePoint)) : Prop where
  nodup : days.Nodup
  mem_iff : ∀ ps, ps ∈ days ↔ HasEvents entries (.ofPoints ps)

/-- The keys are texts, none stands twice, and the calendar index names the days with records. -/
structure WellIndexed (entries : Fields) : Prop where
  spelled : ∀ k ∈ entries.keys, k.IsSpelled
  nodup : entries.keys.Nodup
  index : ∃ days, entries.get? indexKey = some (.arr (days.map Json.spelled)) ∧ Names entries days

/-- A store that is opened on the text lists as its days, in strict order, the keys with a property
that may depend on the mapping. -/
def Presents (text : String) (p : Fields → Scalar → Prop) : Prop :=
  ∃ (u : Store) (days : List Scalar), ofText text = .ok u ∧ u.days = .ok (days.map .scalar) ∧
    days.Pairwise (fun a b ↦ a.before? b = some true) ∧ ∀ k, k ∈ days ↔ p u.entries k

/-- A text with an index of texts is opened as it is, and the days are those of the index. -/
theorem presents_of_entriesOf {p : Fields → Scalar → Prop} (hentries : entriesOf text = .ok entries)
    (hindex : entries.get? indexKey = some (.arr (days.map Json.spelled))) (hnodup : days.Nodup)
    (hp : ∀ k, k ∈ days.map Scalar.ofPoints ↔ p entries k) : Presents text p := by
  obtain ⟨sorted, hsorted, hperm, hascending⟩ := sorted_spelled days
  refine ⟨⟨entries, .file [text]⟩, sorted.map .ofPoints, ?_, ?_, ?_, ?_⟩
  · rw [ofText, hentries]
    exact withIndex_of_isSome (by rw [hindex]; rfl)
  · rw [Store.days, list_of_get? hindex (depth_map_spelled days), ok_bind, hsorted,
      map_scalar_ofPoints]
  · have hstrict := hascending.strict (hperm.nodup_iff.2 hnodup)
    refine List.pairwise_map.2 (hstrict.imp fun hlt ↦ ?_)
    rw [Scalar.before?_ofPoints, decide_eq_true hlt]
  · intro k
    rw [(hperm.map _).mem_iff]
    exact hp k

/-- The text of a mapping is opened with the index of the mapping and the same days with records. -/
theorem presents_textOf {p : Prop → Scalar → Prop}
    (hwritable : (Json.obj entries).isWritable = true)
    (hspelled : ∀ k ∈ entries.keys, k.IsSpelled) (hkeys : entries.keys.Nodup)
    (hindex : entries.get? indexKey = some (.arr (days.map Json.spelled))) (hnodup : days.Nodup)
    (hp : ∀ k, k ∈ days.map Scalar.ofPoints ↔ p (HasEvents entries k) k) :
    Presents (textOf entries) fun entries k ↦ p (HasEvents entries k) k := by
  refine presents_of_entriesOf (entriesOf_textOf hwritable) ?_ hnodup ?_
  · rw [rereadEntries_eq_map hspelled hkeys]
    exact get?_map_reread hindex
  · intro k
    rw [hp, rereadEntries_eq_map hspelled hkeys, hasEvents_map_reread]

/-! ### One or two writes -/

theorem flushed_of_file {versions : List String} (hfile : s.backing = .file versions) :
    s.flushed.backing = .file (textOf s.entries :: versions) := by
  rw [flushed, hfile]

/-- The texts that a write puts before the old ones, if there are two: the mapping with the new
records and the old index, and then with the new index. -/
structure InTwo (key : Scalar) (middle last : String) : Prop where
  isDay : isDayKey key = true
  /-- The days are listed rightly, but for the one that the write is about. -/
  middle : Presents middle fun entries k ↦ (HasEvents entries k ↔ k ≠ key)
  last : Presents last HasEvents

/-- The texts that a write puts before the old ones. -/
inductive Puts (key : Scalar) : List String → Prop
  | nothing : Puts key []
  | one {last : String} (h : Presents last HasEvents) : Puts key [last]
  | two {middle last : String} (h : InTwo key middle last) : Puts key [last, middle]

/-- A text is given records, and the index stays as it is: what is presented is the old index. -/
theorem WellIndexed.presents_set {p : Prop → Scalar → Prop} (h : WellIndexed entries)
    (hindex : entries.get? indexKey = some (.arr (days.map Json.spelled))) (hnodup : days.Nodup)
    (hkey : key.IsSpelled) (hother : key ≠ indexKey)
    (hwritable : (Json.obj (entries.set key (.arr records))).isWritable = true)
    (hp : ∀ k, k ∈ days.map Scalar.ofPoints ↔
      p (HasEvents (entries.set key (.arr records)) k) k) :
    Presents (textOf (entries.set key (.arr records))) fun entries k ↦ p (HasEvents entries k) k :=
  presents_textOf hwritable (spelled_set h.spelled hkey _) (Fields.nodup_keys_set h.nodup _ _)
    ((Fields.get?_set_of_ne _ _ hother.symm).trans hindex) hnodup hp

section Day

variable {ps : List CodePoint}

/-- If the day changes between having records and having none, the old index is wrong about it and
about nothing else. -/
theorem mem_ofPoints_iff_of_changed (h : WellIndexed entries) (hnames : Names entries days)
    (hday : isDayKey (.ofPoints ps) = true) (hchanged : (!records.isEmpty) ≠ decide (ps ∈ days))
    (k : Scalar) : k ∈ days.map Scalar.ofPoints ↔
      (HasEvents (entries.set (.ofPoints ps) (.arr records)) k ↔ k ≠ .ofPoints ps) := by
  by_cases hk : k = .ofPoints ps
  · subst hk
    rw [List.mem_map_of_injective Scalar.ofPoints_injective, HasEvents, Fields.get?_set_self]
    by_cases hmem : ps ∈ days <;> cases records <;> simp_all
  · rw [mem_ofPoints_iff hnames.mem_iff h.spelled, HasEvents, HasEvents,
      Fields.get?_set_of_ne _ _ hk]
    simp [hk]

/-- Once the new index is there, it is right. -/
theorem presents_of_tracked (h : WellIndexed entries) (hnames : Names entries days)
    (hday : isDayKey (.ofPoints ps) = true) (htracked : Tracked days days' ps (!records.isEmpty))
    (hwritable : (Json.obj ((entries.set (.ofPoints ps) (.arr records)).set indexKey
      (.arr (days'.map Json.spelled)))).isWritable = true) :
    Presents (textOf ((entries.set (.ofPoints ps) (.arr records)).set indexKey
      (.arr (days'.map Json.spelled)))) HasEvents := by
  have hspelled := spelled_set h.spelled ⟨ps, rfl⟩ (.arr records)
  refine presents_textOf (p := fun has _ ↦ has) hwritable
    (spelled_set hspelled (Scalar.isSpelled_text _) _)
    (Fields.nodup_keys_set (Fields.nodup_keys_set h.nodup _ _) _ _) (Fields.get?_set_self ..)
    htracked.nodup fun k ↦ ?_
  rw [hasEvents_set_of_not_day isDayKey_indexKey]
  exact mem_ofPoints_iff (mem_iff_of_tracked hnames.mem_iff hday htracked.mem_iff) hspelled

/-- A day with new records is kept track of: with the index as it is, or with a second text. -/
theorem puts_of_trackDay {u : Store} {versions : List String} (h : WellIndexed entries)
    (hday : isDayKey (.ofPoints ps) = true)
    (hentries : u.entries = entries.set (.ofPoints ps) (.arr records))
    (hfile : u.backing = .file (textOf u.entries :: versions)) (hwritable : u.Writable)
    (hok : (trackDay (.ofPoints ps) (!records.isEmpty)).perform u = (.ok (), t)) :
    ∃ newer, t.backing = .file (newer ++ versions) ∧ Puts (.ofPoints ps) newer := by
  obtain ⟨days, hindex, hnames⟩ := h.index
  have hother := ne_indexKey_of_isDayKey hday
  have hindex' : u.entries.get? indexKey = some (.arr (days.map Json.spelled)) := by
    rw [hentries, Fields.get?_set_of_ne _ _ hother.symm, hindex]
  rw [Writable, hentries] at hwritable
  rw [hentries] at hfile
  rw [perform_trackDay_eq hindex' hnames.nodup] at hok
  by_cases hsame : (!records.isEmpty) = decide (ps ∈ days)
  · -- the old index is right about the day, and stays
    rw [if_pos hsame] at hok
    cases hok
    exact ⟨[_], hfile, .one (h.presents_set (p := fun has _ ↦ has) hindex hnames.nodup ⟨ps, rfl⟩
      hother hwritable fun _ ↦ mem_ofPoints_iff
        (mem_iff_of_tracked hnames.mem_iff hday (mem_iff_self hsame))
        (spelled_set h.spelled ⟨ps, rfl⟩ _))⟩
  · -- the old index is in the file until the new one is
    obtain ⟨days', htracked, hsorted⟩ := sorted_tracked hnames.nodup hsame
    rw [if_neg hsame, perform_bind, perform_ofExcept, hsorted] at hok
    obtain ⟨-, hsave, rfl⟩ := perform_put_eq_ok.1 hok
    have hentries' : (u.assign indexKey (days'.map Json.spelled)).entries =
        (entries.set (.ofPoints ps) (.arr records)).set indexKey (.arr (days'.map Json.spelled)) :=
      congrArg (·.set indexKey (.arr (days'.map Json.spelled))) hentries
    have hfile' := flushed_of_file (s := u.assign indexKey (days'.map Json.spelled)) hfile
    have hwritable' := writable_of_canSave hsave (by
      rw [assign, hfile]
      simp)
    rw [hentries'] at hfile'
    rw [Writable, hentries'] at hwritable'
    exact ⟨[_, _], hfile', .two ⟨hday,
      h.presents_set (p := fun has k ↦ (has ↔ k ≠ .ofPoints ps)) hindex hnames.nodup ⟨ps, rfl⟩
        hother hwritable (mem_ofPoints_iff_of_changed h hnames hday hsame),
      presents_of_tracked h hnames hday htracked hwritable'⟩⟩

end Day

/-- **A write in a file** leaves it alone, or puts one text there or two. -/
theorem puts_of_writeRecords {versions : List String} (hfile : s.backing = .file versions)
    (h : WellIndexed s.entries) (hkey : key.IsSpelled) (hother : key ≠ indexKey)
    (records : List Json) :
    ∃ newer, ((writeRecords key records).perform s).2.backing = .file (newer ++ versions) ∧
      Puts key newer := by
  obtain ⟨days, hindex, hnames⟩ := h.index
  rw [writeRecords_eq]
  rcases hput : (put key records).perform s with ⟨e | x, u⟩
  · -- the first write has failed, and the file is as it was
    rw [perform_bind_of_error hput]
    refine ⟨[], ?_, .nothing⟩
    rcases eq_or_unsaved_of_put hput with rfl | ⟨-, hbacking⟩
    · exact hfile
    · exact hbacking.trans hfile
  · -- the second, if there is one, does not fail
    obtain ⟨t, hfollow⟩ := exists_perform_followUp_of_put hput hkey
      fun _ ↦ ⟨days, list_of_get? hindex (depth_map_spelled days)⟩
    rw [perform_bind_of_ok hput, hfollow]
    obtain ⟨-, hsave, rfl⟩ := perform_put_eq_ok.1 hput
    have hbacking := flushed_of_file (s := s.assign key records) hfile
    have hwritable : (s.assign key records).Writable := writable_of_canSave hsave (by
      rw [assign, hfile]
      simp)
    obtain ⟨ps, rfl⟩ := hkey
    rw [followUp, isText_ofPoints, Bool.not_true, if_neg (by simp)] at hfollow
    by_cases hday : isDayKey (.ofPoints ps) = true
    · rw [if_pos hday] at hfollow
      rw [← flushed_entries] at hbacking
      rw [Writable, ← flushed_entries] at hwritable
      exact puts_of_trackDay h hday (flushed_entries _) hbacking hwritable hfollow
    · rw [if_neg hday] at hfollow
      cases hfollow
      refine ⟨[_], hbacking, .one (h.presents_set (p := fun has _ ↦ has) hindex hnames.nodup
        ⟨ps, rfl⟩ hother hwritable fun k ↦ ?_)⟩
      rw [hasEvents_set_of_not_day (Bool.not_eq_true _ ▸ hday)]
      exact mem_ofPoints_iff hnames.mem_iff h.spelled

/-! ### The result -/

/-- What a file holds from which a right index is read. -/
theorem presents_of_onDisk {versions : List String} (hfile : s.backing = .file versions)
    (hdisk : s.onDisk = .ok entries) (h : WellIndexed entries) :
    ∃ text older, versions = text :: older ∧ Presents text HasEvents := by
  obtain ⟨days, hindex, hnames⟩ := h.index
  rw [onDisk, hfile] at hdisk
  cases versions with
  | nil =>
    cases hdisk
    cases hindex
  | cons text older =>
    exact ⟨text, older, rfl, presents_of_entriesOf hdisk hindex hnames.nodup
      fun _ ↦ mem_ofPoints_iff hnames.mem_iff h.spelled⟩

/-- **An operation that is interrupted.** A store in a file has a right index, and an operation is
about a text other than the key of the index. Whatever moment the program is stopped at, what is
opened on the file lists the days with records in strict order and nothing else: before the first
write, if the file's index was right, and after the last one. If there are two writes, the operation
gives a day its first record or takes away its last, and between the two exactly that day is listed
wrongly. -/
theorem interrupted_operation {o : Operation} {versions : List String}
    (hfile : s.backing = .file versions) (h : WellIndexed s.entries) (ho : o.Foreign) :
    (∀ entries, s.onDisk = .ok entries → WellIndexed entries →
      ∃ text older, versions = text :: older ∧ Presents text HasEvents) ∧
    ∃ newer, (o.perform s).2.backing = .file (newer ++ versions) ∧
      (newer = [] ∨ ∃ key, o.key? = some key ∧ Puts key newer) := by
  refine ⟨fun entries hdisk hentries ↦ presents_of_onDisk hfile hdisk hentries, ?_⟩
  by_cases hwrites : o.Writes s
  · obtain ⟨answer, key, records, hplan, -⟩ := hwrites
    obtain ⟨hkey, hother⟩ := ho key (Operation.key?_of_plan hplan)
    obtain ⟨newer, hnewer, hputs⟩ := puts_of_writeRecords hfile h hkey hother records
    rw [Operation.perform_of_plan hplan]
    exact ⟨newer, hnewer, .inr ⟨key, Operation.key?_of_plan hplan, hputs⟩⟩
  · obtain ⟨r, hsame, -⟩ := Operation.perform_of_not_writes hwrites
    rw [hsame]
    exact ⟨[], hfile, .inl rfl⟩

/-- A store whose file holds an empty calendar index. -/
def withoutDays : Store := ⟨[(indexKey, .arr [])], .file [textOf [(indexKey, .arr [])]]⟩

theorem wellIndexed_withoutDays : WellIndexed withoutDays.entries where
  spelled k hk := List.mem_singleton.1 hk ▸ Scalar.isSpelled_text _
  nodup := List.nodup_singleton _
  index := by
    refine ⟨[], rfl, List.nodup_nil, fun ps ↦ ⟨fun hps ↦ absurd hps (List.not_mem_nil), ?_⟩⟩
    rintro ⟨hday, r, rs, hget⟩
    rw [withoutDays, Fields.get?_cons] at hget
    split at hget <;> cases hget

/-- A first event is entered on a day: the file holds two new texts, of which the older one does not
list the day. -/
theorem interrupted_operation_first :
    ∃ middle last, ((Operation.append "cal-250101" (.str "x")).perform withoutDays).2.backing =
        .file [last, middle, textOf [(indexKey, .arr [])]] ∧ InTwo "cal-250101" middle last := by
  obtain ⟨-, newer, hbacking, hnewer⟩ := interrupted_operation
    (o := .append "cal-250101" (.str "x")) (s := withoutDays) rfl wellIndexed_withoutDays
    (by
      intro key hkey
      cases hkey
      exact ⟨Scalar.isSpelled_text _, by decide +kernel⟩)
  obtain ⟨last, middle, htwo⟩ : ∃ last middle,
      ((Operation.append "cal-250101" (.str "x")).perform withoutDays).2.backing =
        .file [last, middle, textOf [(indexKey, .arr [])]] :=
    ⟨textOf [(indexKey, .arr [.str "cal-250101"]), ("cal-250101", .arr [.str "x"])],
      textOf [(indexKey, .arr []), ("cal-250101", .arr [.str "x"])], by decide +kernel⟩
  have hcount := Backing.file.inj (hbacking.symm.trans htwo)
  rcases hnewer with rfl | ⟨key, hkey, hputs⟩
  · cases hcount
  · cases hkey
    cases hputs with
    | nothing | one => cases hcount
    | two h => exact ⟨_, _, hbacking, h⟩

theorem not_presents {u : Store} (hopen : ofText text = .ok u) (k : Scalar)
    (listed : List Scalar) (hdays : u.days = .ok (listed.map .scalar))
    (hk : ¬(k ∈ listed ↔ HasEvents u.entries k)) :
    ¬Presents text HasEvents := by
  rintro ⟨v, days, hopen', hdays', -, hall⟩
  obtain rfl := Except.ok.inj (hopen.symm.trans hopen')
  have hsame : listed = days := List.map_injective_iff.2 (fun _ _ ↦ Json.scalar.inj)
    (Except.ok.inj (hdays.symm.trans hdays'))
  exact hk (hsame ▸ hall k)

/-- **The calendar index is not right at every moment.** The program is stopped when a first event
has been written and the index has not. Nor is it right when an operation writes the index
itself. -/
theorem not_always_consistent :
    (¬ ∀ (s : Store) (o : Operation) (versions newer : List String), s.backing = .file versions →
      WellIndexed s.entries → o.Foreign →
      (o.perform s).2.backing = .file (newer ++ versions) →
      ∀ text ∈ newer, Presents text HasEvents) ∧
    ¬ ∀ (s : Store) (o : Operation) (text : String), WellIndexed s.entries →
      (o.perform s).2.fileText? = some text → Presents text HasEvents := by
  constructor
  · intro h
    let middle : Fields := [(indexKey, .arr []), ("cal-250101", .arr [.str "x"])]
    let last : Fields :=
      [(indexKey, .arr [.str "cal-250101"]), ("cal-250101", .arr [.str "x"])]
    have hopen : ofText (textOf middle) = .ok ⟨middle, .file [textOf middle]⟩ := by decide +kernel
    refine not_presents hopen "cal-250101" [] (by decide +kernel) ?_ (h
      withoutDays (.append "cal-250101" (.str "x")) _ [textOf last, textOf middle] rfl
      wellIndexed_withoutDays ?_ (by decide +kernel) (textOf middle) (by simp))
    · simp only [List.not_mem_nil, false_iff, not_not]
      exact ⟨by decide +kernel, .str "x", [], rfl⟩
    · intro key hkey
      cases hkey
      exact ⟨Scalar.isSpelled_text _, by decide +kernel⟩
  · intro h
    let last : Fields := [(indexKey, .arr [.str "cal-250101"])]
    have hopen : ofText (textOf last) = .ok ⟨last, .file [textOf last]⟩ := by decide +kernel
    refine not_presents hopen "cal-250101" ["cal-250101"] (by decide +kernel) ?_
      (h withoutDays (.append indexKey (.str "cal-250101")) _ wellIndexed_withoutDays
        (by decide +kernel))
    have hnone : last.get? "cal-250101" = none := by decide +kernel
    intro hiff
    obtain ⟨-, r, rs, hget⟩ := hiff.1 (List.mem_singleton_self _)
    cases hnone.symm.trans hget

end Organizer.Store
