import Organizer.Proofs.App.Running
import Organizer.Proofs.Files.RoundTrip
import Organizer.Proofs.Store.Series

/-!
# Replacing the agenda

A file that is loaded replaces the agenda and nothing else (`Replaces`): its days have the events
that it gives them, all other days have none, the calendar index lists the days that have events,
and no other key is touched. The days that have to be cleared are found in the index, which changes
while they are cleared; that none is missed is owed to an index that is right at the start.

Replacing is a series of writes, one for each day that the index lists and the file does not, and
one for each day of the file (`perform_replace`). In memory, where all writes succeed, it is
therefore an instance of what series do, and what it does in a file follows from that.
-/

namespace Organizer

open Organizer.Action Json

/-! ### Indexes that are right -/

namespace Store

variable {s : Store} {entries : Fields} {days : List (List Text.CodePoint)}

/-- The keys are texts, and the calendar index is the list of the active days. -/
structure RightlyIndexed (s : Store) : Prop where
  spelled : ∀ k ∈ s.entries.keys, k.IsSpelled
  nodup : s.entries.keys.Nodup
  index : ∃ days, s.activeDays = .ok days ∧ s.entries.get? indexKey = some (.arr days)

theorem RightlyIndexed.indexed (h : s.RightlyIndexed) : Indexed s.entries := by
  obtain ⟨xs, hactive, hget⟩ := h.index
  obtain ⟨hsound, days, rfl, hlists⟩ := lists_of_activeDays h.spelled h.nodup hactive
  exact ⟨hsound, days, hget, hlists⟩

/-- What is not listed has no records. -/
theorem Indexed.list_eq_nil (h : Indexed s.entries) {key : Scalar} (hday : isDayKey key = true)
    (hnot : ¬HasEvents s.entries key) : s.list key = .ok [] := by
  rw [list]
  split
  · rfl
  · rename_i v hget
    rw [if_neg (Nat.not_lt.2 (h.shallow key v hget hday))]
    split
    · rename_i records
      cases records with
      | nil => rfl
      | cons r rs => exact absurd ⟨hday, r, rs, hget⟩ hnot
    · rfl

theorem ofPoints_eq_text_iff {ps : List Text.CodePoint} {text : String} :
    Scalar.ofPoints ps = .text text ↔ ps = pointsOf text := by
  have htext : Scalar.ofPoints (pointsOf text) = .text text := by
    rw [pointsOf, Scalar.ofPoints_map_char, String.ofList_toList]
  rw [← htext]
  exact Scalar.ofPoints_injective.eq_iff

/-- If the listed days are texts, the index is their sorted list. -/
theorem Lists.eq_sortTexts (h : Lists entries days) {ss : List String} (hss : ss.Nodup)
    (hmem : ∀ ps, ps ∈ days ↔ ps ∈ ss.map pointsOf) :
    days.map Json.spelled = (sortTexts ss).map .str := by
  have hinjective : Function.Injective pointsOf := fun a b heq ↦
    Scalar.text.inj ((ofPoints_eq_text_iff.2 rfl).symm.trans (ofPoints_eq_text_iff.2 heq))
  have hascending : Ascending ((sortTexts ss).map pointsOf) :=
    List.pairwise_map.2 ((pairwise_sortTexts ss).imp fun hle ↦ rank_pointsOf_le hle)
  have hperm : days.Perm ((sortTexts ss).map pointsOf) := by
    refine ((List.perm_ext_iff_of_nodup h.nodup (hss.map hinjective)).2 hmem).trans ?_
    exact ((List.mergeSort_perm ss _).map pointsOf).symm
  rw [h.ascending.eq_of_perm hascending hperm, map_spelled_pointsOf]

end Store

namespace Agenda

open Store

variable {s : Store} {entries : Fields} {days : List (String × List Json)} {d d' : Desk}
  {typed : Option String} {path : Path} {v : Json}

/-- The days and their events are as a file can give them. -/
def AreDays (days : List (String × List Json)) : Prop :=
  ∀ day ∈ days, DayKey.isDigitsKey day.1 = true ∧ ∀ event ∈ day.2, event.isText = true

/-- The agenda of the store is made of the days: they have their events, all other days have none,
and the index lists the days with events in order. -/
structure Shows (days : List (String × List Json)) (t : Store) : Prop where
  given : ∀ day ∈ days, t.list day.1 = .ok day.2
  others : ∀ key, isDayKey key = true → (∀ day ∈ days, key ≠ day.1) → t.list key = .ok []
  index : t.days =
    .ok ((sortTexts ((days.filter fun day ↦ !day.2.isEmpty).map (·.1))).map .str)

/-- The agenda is made of the days, and what does not belong to it is as it was in the mapping. -/
structure Replaces (entries : Fields) (days : List (String × List Json)) (t : Store) : Prop
    extends Shows days t where
  untouched : ∀ key : Scalar, isDayKey key = false → key ≠ indexKey →
    t.entries.get? key = entries.get? key

/-- Stores whose agendas are made of the same days have the same agenda. -/
theorem Shows.eq {t : Store} (hs : Shows days s) (ht : Shows days t) :
    (∀ key, isDayKey key = true → t.list key = s.list key) ∧ t.days = s.days := by
  refine ⟨fun key hday ↦ ?_, ht.index.trans hs.index.symm⟩
  by_cases hgiven : ∃ day ∈ days, key = .text day.1
  · obtain ⟨day, hmem, rfl⟩ := hgiven
    rw [ht.given day hmem, hs.given day hmem]
  · have hnot : ∀ day ∈ days, key ≠ .text day.1 := fun day hmem heq ↦ hgiven ⟨day, hmem, heq⟩
    rw [ht.others key hday hnot, hs.others key hday hnot]

/-! ### A series of writes -/

/-- The keys of an index that are not among some days. -/
def stale (kept : List String) (index : List Scalar) : List Scalar :=
  index.filter fun key ↦ !kept.any fun day ↦ key = .text day

theorem mem_stale {kept : List String} {index : List Scalar} {key : Scalar} :
    key ∈ stale kept index ↔ key ∈ index ∧ ∀ day ∈ kept, key ≠ .text day := by
  simp [stale, List.mem_filter]

/-- The writes that replace an agenda, of which the index is given: the days that are not kept are
cleared, and the others are written. -/
def writesFor (index : List Scalar) (days : List (String × List Json)) :
    List (Scalar × List Json) :=
  (stale (days.map (·.1)) index).map (·, []) ++ days.map fun day ↦ (.text day.1, day.2)

theorem forM_clearEntry (kept : List String) (index : List Scalar) :
    (index.map Json.scalar).forM (clearEntry kept) = writeAll ((stale kept index).map (·, [])) := by
  induction index with
  | nil => rfl
  | cons key index ih =>
    have hkey : clearEntry kept (.scalar key) =
        if kept.any fun day ↦ key = .text day then pure () else replaceAll key [] := rfl
    rw [List.map_cons, stale, List.filter_cons]
    show (clearEntry kept (.scalar key) >>= fun _ ↦ _) = _
    rw [hkey]
    by_cases hkept : kept.any fun day ↦ decide (key = .text day)
    · rw [if_pos hkept, pure_bind, if_neg (by simp [hkept])]
      exact ih
    · rw [if_neg hkept, if_pos (by simp [hkept]), List.map_cons]
      show _ = (writeRecords key [] >>= fun _ ↦ writeAll _)
      rw [← stale, ← ih]
      rfl

/-- **Replacing is a series of writes.** -/
theorem perform_replace {index : List Scalar} (hindex : s.days = .ok (index.map .scalar)) :
    (replace days).perform s = (writeAll (writesFor index days)).perform s := by
  have hdays : days.forM (fun day ↦ replaceAll day.1 day.2) =
      writeAll (days.map fun day ↦ (.text day.1, day.2)) := by
    simp only [writeAll, List.forM_eq_forM, List.forM_map]
    rfl
  have happend : writeAll (writesFor index days) =
      writeAll ((stale (days.map (·.1)) index).map (·, [])) >>= fun _ ↦
        writeAll (days.map fun day ↦ (.text day.1, day.2)) := by
    simp only [writeAll, writesFor, List.forM_eq_forM, List.forM_append]
  rw [replace, perform_bind_of_ok (perform_get s), perform_bind, perform_ofExcept, hindex, happend,
    ← forM_clearEntry, ← hdays]

/-! ### In memory -/

theorem depth_of_isText {events : List Json} (h : ∀ event ∈ events, event.isText = true) :
    (Json.arr events).depth ≤ maxKept := by
  have hitems : depthOfItems events = 0 := by
    induction events with
    | nil => rfl
    | cons event events ih =>
      obtain ⟨hevent, hevents⟩ := List.forall_mem_cons.1 h
      cases event with
      | scalar x => rw [depthOfItems, ih hevents]; rfl
      | arr | obj => cases hevent
  rw [depth, hitems]
  decide

section Wrote

variable {pss : List (List Text.CodePoint)} {t : Store}

theorem map_fst_writesFor (index : List Scalar) (days : List (String × List Json)) :
    (writesFor index days).map (·.1) =
      stale (days.map (·.1)) index ++ days.map fun day ↦ .text day.1 := by
  simp [writesFor, Function.comp_def]

/-- No key is written twice. -/
theorem nodup_writesFor {index : List Scalar} (hindex : index.Nodup)
    (hdays : (days.map (·.1)).Nodup) : ((writesFor index days).map (·.1)).Nodup := by
  have htexts := hdays.map (f := Scalar.text) fun _ _ heq ↦ Scalar.text.inj heq
  rw [List.map_map] at htexts
  rw [map_fst_writesFor]
  refine List.nodup_append.2 ⟨hindex.filter _, htexts, ?_⟩
  rintro key hkey _ hday rfl
  obtain ⟨day, hmem, heq⟩ := List.mem_map.1 hday
  exact (mem_stale.1 hkey).2 day.1 (List.mem_map_of_mem hmem) heq.symm

/-- A day that the file does not have is without events afterwards: an old one was listed, and so
has been cleared. -/
theorem not_hasEvents_of_wrote (h : Indexed entries) (hlists : Lists entries pss)
    {entries' : Fields} (hwrote : Wrote entries (writesFor (pss.map .ofPoints) days) entries')
    {key : Scalar} (hnot : ∀ day ∈ days, key ≠ .text day.1) : ¬HasEvents entries' key := by
  rintro ⟨hday, r, rs, hget⟩
  have hkept : ∀ text ∈ days.map (·.1), key ≠ .text text := by
    intro text htext
    obtain ⟨day, hmem, rfl⟩ := List.mem_map.1 htext
    exact hnot day hmem
  by_cases hlisted : key ∈ pss.map Scalar.ofPoints
  · have hcleared := hwrote.written (key, [])
      (List.mem_append_left _ (List.mem_map_of_mem (mem_stale.2 ⟨hlisted, hkept⟩)))
    rw [hcleared] at hget
    cases hget
  · have hold : entries'.get? key = entries.get? key := by
      refine hwrote.others key ?_ (ne_indexKey_of_isDayKey hday)
      rw [map_fst_writesFor, List.mem_append, not_or]
      refine ⟨fun hmem ↦ hlisted (mem_stale.1 hmem).1, fun hmem ↦ ?_⟩
      obtain ⟨day, hmem, heq⟩ := List.mem_map.1 hmem
      exact hnot day hmem heq.symm
    exact hlisted ((mem_ofPoints_iff hlists.mem_iff h.spelled).2 ⟨hday, r, rs, hold ▸ hget⟩)

/-- Afterwards the days with events are those of the file. -/
theorem hasEvents_iff_of_wrote (h : Indexed entries) (hlists : Lists entries pss)
    (hdays : AreDays days) {entries' : Fields}
    (hwrote : Wrote entries (writesFor (pss.map .ofPoints) days) entries') (key : Scalar) :
    HasEvents entries' key ↔ ∃ day ∈ days, key = .text day.1 ∧ day.2 ≠ [] := by
  have hwritten (day : String × List Json) (hday : day ∈ days) :
      entries'.get? day.1 = some (.arr day.2) :=
    hwrote.written (.text day.1, day.2) (List.mem_append_right _ (List.mem_map_of_mem hday))
  constructor
  · intro hevents
    by_cases hgiven : ∃ day ∈ days, key = .text day.1
    · obtain ⟨day, hmem, rfl⟩ := hgiven
      obtain ⟨-, r, rs, hget⟩ := hevents
      rw [hwritten day hmem] at hget
      refine ⟨day, hmem, rfl, ?_⟩
      rw [Json.arr.inj (Option.some.inj hget)]
      exact List.cons_ne_nil r rs
    · exact absurd hevents
        (not_hasEvents_of_wrote h hlists hwrote fun day hmem heq ↦ hgiven ⟨day, hmem, heq⟩)
  · rintro ⟨day, hmem, rfl, hne⟩
    obtain ⟨r, rs, heq⟩ := List.exists_cons_of_ne_nil hne
    exact ⟨isDayKey_of_isDigitsKey (hdays day hmem).1, r, rs, heq ▸ hwritten day hmem⟩

/-- What a series that replaces an agenda leads to. -/
theorem replaces_of_wrote (h : Indexed entries) (hlists : Lists entries pss)
    (hnodup : (days.map (·.1)).Nodup) (hdays : AreDays days) (ht : Indexed t.entries)
    (hwrote : Wrote entries (writesFor (pss.map .ofPoints) days) t.entries) :
    Replaces entries days t where
  given day hday := list_of_get?
    (hwrote.written (.text day.1, day.2) (List.mem_append_right _ (List.mem_map_of_mem hday)))
    (depth_of_isText (hdays day hday).2)
  others key hday hnot :=
    ht.list_eq_nil hday (not_hasEvents_of_wrote h hlists hwrote hnot)
  index := by
    obtain ⟨qss, hindex, hqss⟩ := ht.index
    have hnodup' : ((days.filter fun day ↦ !day.2.isEmpty).map (·.1)).Nodup :=
      hnodup.sublist (List.filter_sublist.map _)
    rw [days_of_index hindex hqss, hqss.eq_sortTexts hnodup']
    intro ps
    rw [hqss.mem_iff, hasEvents_iff_of_wrote h hlists hdays hwrote]
    simp only [List.map_map, List.mem_map, List.mem_filter, Function.comp_apply]
    refine exists_congr fun day ↦ ?_
    rw [ofPoints_eq_text_iff, Bool.not_eq_true', List.isEmpty_eq_false_iff, and_assoc,
      and_comm (a := ps = pointsOf day.1), eq_comm]
  untouched key hday hindex := by
    refine hwrote.others key ?_ hindex
    rw [map_fst_writesFor, List.mem_append, not_or]
    constructor
    · intro hmem
      obtain ⟨ps, hps, rfl⟩ := List.mem_map.1 (mem_stale.1 hmem).1
      have hlisted := ((hlists.mem_iff ps).1 hps).1
      rw [hday] at hlisted
      cases hlisted
    · intro hgiven
      obtain ⟨day, hmem, rfl⟩ := List.mem_map.1 hgiven
      rw [isDayKey_of_isDigitsKey (hdays day hmem).1] at hday
      cases hday

end Wrote

/-- **In memory the agenda is replaced.** -/
theorem exists_perform_replace (h : Indexed s.entries) (hs : s.backing = .memory)
    (hnodup : (days.map (·.1)).Nodup) (hdays : AreDays days) :
    ∃ t, (replace days).perform s = (.ok (), t) ∧ Replaces s.entries days t := by
  obtain ⟨pss, hindex, hlists⟩ := h.index
  have hwrites : ∀ w ∈ writesFor (pss.map .ofPoints) days,
      w.1.IsSpelled ∧ w.1 ≠ indexKey ∧ (Json.arr w.2).depth ≤ maxKept := by
    intro w hw
    rcases List.mem_append.1 hw with hw | hw
    · obtain ⟨key, hkey, rfl⟩ := List.mem_map.1 hw
      obtain ⟨ps, hps, rfl⟩ := List.mem_map.1 (mem_stale.1 hkey).1
      exact ⟨⟨ps, rfl⟩, ne_indexKey_of_isDayKey ((hlists.mem_iff ps).1 hps).1,
        depth_of_isText (List.forall_mem_nil _)⟩
    · obtain ⟨day, hday, rfl⟩ := List.mem_map.1 hw
      exact ⟨Scalar.isSpelled_text _,
        ne_indexKey_of_isDayKey (isDayKey_of_isDigitsKey (hdays day hday).1),
        depth_of_isText (hdays day hday).2⟩
  obtain ⟨t, hperform, ht, hwrote⟩ := h.writeAll hs
    (nodup_writesFor (hlists.nodup.map Scalar.ofPoints_injective) hnodup) hwrites
  have hlisted : s.days = .ok ((pss.map .ofPoints).map .scalar) := by
    rw [map_scalar_ofPoints, days_of_index hindex hlists]
  exact ⟨t, (perform_replace hlisted).trans hperform,
    replaces_of_wrote h hlists hnodup hdays ht hwrote⟩

/-! ### Wherever the store is kept -/

theorem faithful_clearEntry (kept : List String) (entry : Json) :
    Faithful (clearEntry kept entry) :=
  .bind (.ofExcept _) fun _ ↦ .ite _ (.pure _) (faithful_writeRecords _ _)

theorem faithful_replace (days : List (String × List Json)) : Faithful (replace days) :=
  .get_bind (fun _ ↦ .bind (.ofExcept _) fun _ ↦ .bind (.forM fun _ ↦ faithful_clearEntry _ _)
    fun _ ↦ .forM fun _ ↦ faithful_writeRecords _ _) fun _ ↦ rfl

/-- What has been answered has replaced the agenda. -/
theorem replaces_of_perform {t : Store} (h : Indexed s.entries) (hnodup : (days.map (·.1)).Nodup)
    (hdays : AreDays days) (hperform : (replace days).perform s = (.ok (), t)) :
    Replaces s.entries days t := by
  obtain ⟨u, hmemory, hu⟩ := exists_perform_replace (s := s.inMemory) h rfl hnodup hdays
  have hmirrored := (faithful_replace days).mirrored hperform (.inl ⟨(), rfl⟩)
  obtain ⟨-, rfl⟩ := Prod.mk.inj (hmemory.symm.trans hmirrored)
  exact ⟨⟨hu.given, hu.others, hu.index⟩, hu.untouched⟩

/-- If the mapping and the events can be written, replacing the agenda is answered. -/
theorem exists_perform_replace_of_canSave (h : Indexed s.entries)
    (hnodup : (days.map (·.1)).Nodup) (hdays : AreDays days) (hsave : s.canSave = true)
    (hwritable : ∀ day ∈ days, ∀ event ∈ day.2, event.allScalars Scalar.isWritable = true) :
    ∃ t, (replace days).perform s = (.ok (), t) := by
  obtain ⟨u, hmemory, -⟩ := exists_perform_replace (s := s.inMemory) h rfl hnodup hdays
  exact (faithful_replace days).perform_eq_ok (preserves_replace recordwise_writable.writewise
    (fun _ hkey ↦ hkey) fun day hday ↦ ⟨rfl, hwritable day hday⟩) hmemory hsave

/-! ### Loading a file -/

/-- What is answered when an agenda has been loaded. -/
def loaded (path : Path) : List Response :=
  Response.reply ("Calendar data loaded from " ++ path.name ++ ".") .calendar

/-- A file that holds an agenda is loaded by replacing the agenda. -/
theorem perform_load (hpath : d.resolve typed fileName = .ok path) (hread : d.read path = .ok v)
    (hdays : daysOf? v = some days) :
    (load typed).perform d = (((replace days).perform d.store).1.map fun _ ↦ loaded path,
      { d with store := ((replace days).perform d.store).2 }) := by
  rw [load, perform_bind_of_ok (perform_get d), perform_bind, perform_ofExcept, hpath]
  dsimp only
  rw [perform_bind, perform_ofExcept, hread]
  simp only [hdays]
  rw [perform_bind, Desk.onStore, perform_within]
  rcases (replace days).perform d.store with ⟨_ | _, _⟩ <;> rfl

/-- To load a file touches nothing but the store, and if it is answered it has replaced the agenda.
It is answered in memory, and in a file if the mapping can be written and no text in the value is
torn. -/
def Loads (typed : Option String) (path : Path) (v : Json) (days : List (String × List Json))
    (d : Desk) : Prop :=
  ∃ (r : Except Failure (List Response)) (t : Store),
    (load typed).perform d = (r, { d with store := t }) ∧
    (∀ answer, r = .ok answer → Replaces d.store.entries days t) ∧
    (d.store.backing = .memory ∨ d.store.canSave = true ∧ v.hasTorn = false →
      r = .ok (loaded path))

/-- **A file that holds an agenda is loaded**, if the index is right. -/
theorem loads_of_read (h : Indexed d.store.entries) (hpath : d.resolve typed fileName = .ok path)
    (hread : d.read path = .ok v) (hdays : daysOf? v = some days) :
    Loads typed path v days d := by
  obtain ⟨rfl, hare⟩ := daysOf?_eq_some.1 hdays
  have hasRead := Desk.asRead_of_read hread
  have hnodup : (days.map (·.1)).Nodup := by
    have hkeys := (asRead_obj.1 hasRead).1
    rw [Fields.keys, List.map_map] at hkeys
    refine List.Nodup.of_map Scalar.text ?_
    rwa [List.map_map]
  refine ⟨_, _, perform_load hpath hread hdays, ?_, ?_⟩
  · intro answer hanswer
    rcases hperform : (replace days).perform d.store with ⟨e | x, t⟩
    · rw [hperform] at hanswer
      cases hanswer
    · exact replaces_of_perform h hnodup hare hperform
  · rintro (hmemory | ⟨hsave, htorn⟩)
    · obtain ⟨t, hperform, -⟩ := exists_perform_replace h hmemory hnodup hare
      rw [hperform]
      rfl
    · have hwritable : ∀ day ∈ days, ∀ event ∈ day.2,
          event.allScalars Scalar.isWritable = true := by
        intro day hday
        have hscalars := allScalars_isWritable hasRead.isReadable htorn
        exact allScalarsOfItems_iff.1
          (allScalarsOfFields_iff.1 hscalars _ (List.mem_map_of_mem hday)).2
      obtain ⟨t, hperform⟩ := exists_perform_replace_of_canSave h hnodup hare hsave hwritable
      rw [hperform]
      rfl

end Agenda

end Organizer
