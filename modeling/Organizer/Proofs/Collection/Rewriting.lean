import Organizer.Proofs.Collection.Fitting
import Organizer.Proofs.Store.Refining

/-!
# Collections that are rewritten

A change of a collection reads its list, makes another one of it and writes this one in its place.
No collection is a day of the calendar, and so there is one write only: after it the records of the
collection are the new ones, and nothing else has changed (`Desk.Rewrites`). The change is answered
if the mapping can be written out. If it cannot, the records are those of the collection all the
same, but instead of the answer there is a failure.

What an operation makes of the list is said here for each of the three that find their place or
their records in it (`Store.perform_removeAt`, `Store.perform_replaceAt`,
`Store.perform_removeWhere`). None of them makes a list that is too deep to be written.
-/

namespace Organizer

open Organizer.Action Json

/-! ### Fields -/

/-- One field has been given a value, and the others are as before. A field that was there has kept
its place. -/
structure Fields.ChangesOnly (fs : Fields) (key : Scalar) (v : Json) (fs' : Fields) : Prop where
  field : fs'.get? key = some v
  others : ∀ other ≠ key, fs'.get? other = fs.get? other
  keys : fs'.keys = if key ∈ fs.keys then fs.keys else fs.keys ++ [key]

theorem Fields.changesOnly_set (fs : Fields) (key : Scalar) (v : Json) :
    fs.ChangesOnly key v (fs.set key v) where
  field := get?_set_self fs key v
  others _ h := get?_set_of_ne fs v h
  keys := keys_set fs key v

/-- An object does not become deeper by a scalar. -/
theorem Json.depth_set_scalar (fs : Fields) (key x : Scalar) :
    (obj (fs.set key (.scalar x))).depth ≤ (obj fs).depth := by
  have h := depthOfFields_set fs key (.scalar x)
  rw [depth, Nat.max_zero] at h
  exact Nat.succ_le_succ h

namespace Store

variable {s : Store} {key : Scalar} {records L : List Json} {record : Json} {p q : Test} {i : ℕ}

/-! ### Tests -/

/-- Only the judgements of the records at hand count. -/
theorem firstPlace_congr (h : ∀ r ∈ L, p r = q r) (place : ℕ) :
    firstPlace p place L = firstPlace q place L := by
  induction L generalizing place with
  | nil => rfl
  | cons r L ih =>
    obtain ⟨hr, hL⟩ := List.forall_mem_cons.1 h
    rw [firstPlace, firstPlace, hr, ih hL]

theorem partition?_congr (h : ∀ r ∈ L, p r = q r) : partition? p L = partition? q L := by
  induction L with
  | nil => rfl
  | cons r L ih =>
    obtain ⟨hr, hL⟩ := List.forall_mem_cons.1 h
    rw [partition?, partition?, hr, ih hL]

/-! ### Writing -/

/-- What comes of writing records under a key that is no day, if they are not too deep. -/
def rewritten {α : Type} (s : Store) (key : Scalar) (records : List Json) (answer : α) :
    Except Failure α × Store :=
  if (s.assign key records).canSave then (.ok answer, (s.assign key records).flushed)
  else (.error .unexpected, s.assign key records)

theorem depth_lt_of_mem (hlist : s.list key = .ok L) {r : Json} (hr : r ∈ L) :
    r.depth < maxKept := by
  have hdepth := depth_of_list hlist
  rw [depth] at hdepth
  exact Nat.lt_of_lt_of_le (Nat.lt_succ_of_le (depthOfItems_le_iff.1 le_rfl r hr)) hdepth

/-- A shallow record can take the place of any other. -/
theorem depth_set (hlist : s.list key = .ok L) (hrecord : record.depth < maxKept) (i : ℕ) :
    (arr (L.set i record)).depth ≤ maxKept := by
  rw [depth, Nat.succ_le_iff, Nat.lt_iff_le_pred (Nat.zero_lt_of_lt hrecord), depthOfItems_le_iff]
  intro r hr
  rcases List.mem_or_eq_of_mem_set hr with hr | rfl
  · exact Nat.le_pred_of_lt (depth_lt_of_mem hlist hr)
  · exact Nat.le_pred_of_lt hrecord

/-- A list that is too deep is not handed out. -/
theorem list_of_depth (hget : s.entries.get? key = some (.arr L))
    (hdepth : maxKept < (arr L).depth) : s.list key = .error .unexpected := by
  rw [list, hget]
  exact if_pos hdepth

section Perform

variable (kind : RecordKind) (hlist : s.list kind.collection.key = .ok L)
include hlist

omit hlist in
/-- Under the key of a collection there is one write only. -/
theorem perform_writeRecords_key (hdepth : (arr records).depth ≤ maxKept) :
    (writeRecords kind.collection.key records).perform s =
      s.rewritten kind.collection.key records () := by
  rw [perform_writeRecords_of_not_day rfl kind.isDayKey_key hdepth, perform_flush]
  rfl

omit hlist in
theorem perform_writeRecords_bind {α : Type} (hdepth : (arr records).depth ≤ maxKept) (answer : α) :
    (writeRecords kind.collection.key records >>= fun _ ↦ pure answer).perform s =
      s.rewritten kind.collection.key records answer := by
  rw [← map_eq_pure_bind, perform_map, perform_writeRecords_key kind hdepth, rewritten, rewritten]
  split <;> rfl

/-- **A record is removed**, and answered with. -/
theorem perform_removeAt (hi : i < L.length) :
    (removeAt kind.collection.key (.int (i + 1 : ℕ))).perform s =
      s.rewritten kind.collection.key (L.eraseIdx i) L[i] := by
  have hdepth : (arr (L.eraseIdx i)).depth ≤ maxKept :=
    (depth_of_subset List.eraseIdx_subset).trans (depth_of_list hlist)
  have hplace : placeOf (.int (i + 1 : ℕ)) L.length = .ok i := placeOf_int hi
  rw [removeAt, perform_bind_of_ok ((perform_recordsAt _ s).trans (congrArg (·, s) hlist)), hplace,
    perform_bind_of_ok (perform_ofExcept ..), List.getElem?_eq_getElem hi]
  exact perform_writeRecords_bind kind hdepth L[i]

/-- **A record takes the place of another**, if it is no blank text. -/
theorem perform_replaceAt (hi : i < L.length) (hblank : isBlankText record = false)
    (hrecord : record.depth < maxKept) :
    (replaceAt kind.collection.key (.int (i + 1 : ℕ)) record).perform s =
      s.rewritten kind.collection.key (L.set i record) () := by
  have hplace : placeOf (.int (i + 1 : ℕ)) L.length = .ok i := placeOf_int hi
  rw [replaceAt, hblank, if_neg Bool.false_ne_true,
    perform_bind_of_ok ((perform_recordsAt _ s).trans (congrArg (·, s) hlist)), hplace,
    perform_bind_of_ok (perform_ofExcept ..)]
  exact perform_writeRecords_key kind (depth_set hlist hrecord i)

/-- **The records that pass a test are removed**, and answered with; if there are none, nothing
happens. -/
theorem perform_removeWhere {f : Json → Bool} (hp : ∀ r ∈ L, p r = some (f r)) :
    (removeWhere kind.collection.key p).perform s =
      if L.filter f = [] then (.ok [], s)
      else s.rewritten kind.collection.key (L.filter fun r ↦ !f r) (L.filter f) := by
  have hsplit : partition? p L = some (L.filter fun r ↦ !f r, L.filter f) :=
    (partition?_congr hp).trans (partition?_testOf f L)
  have hdepth : (arr (L.filter fun r ↦ !f r)).depth ≤ maxKept :=
    (depth_of_subset (List.filter_subset_self L)).trans (depth_of_list hlist)
  rw [removeWhere, perform_bind_of_ok ((perform_recordsAt _ s).trans (congrArg (·, s) hlist)),
    hsplit, perform_bind_of_ok (perform_require_some ..)]
  by_cases hnone : L.filter f = []
  · rw [if_pos hnone, hnone]
    rfl
  · rw [if_neg hnone]
    have hsome : (!(L.filter f).isEmpty) = true := by simpa using hnone
    simp only [hsome, if_true]
    exact perform_writeRecords_bind kind hdepth _

end Perform

end Store

namespace Desk

variable {α β : Type} {d : Desk} {records : List Json}

/-- A desk with a store and nothing else. -/
def ofStore (store : Store) : Desk where
  store := store
  home := ⟨.slash, ["home"]⟩
  savedFiles := ⟨.slash, ["home", "saved"]⟩

/-- **The records of a collection are other ones now**, and nothing else has changed. -/
structure Rewrites (d : Desk) (c : Collection) (records : List Json) (answer : α)
    (outcome : Except Failure α × Desk) : Prop where
  /-- The answer is given if the mapping can be written out, as it always can in memory. -/
  answered : outcome.1 =
    if (d.store.assign c.key records).canSave then .ok answer else .error .unexpected
  listed : c.records outcome.2 = .ok records
  /-- All other keys have their values, and all keys their places. -/
  entries : outcome.2.store.entries = d.store.entries.set c.key (.arr records)
  /-- What is answered is in the file, if there is one. -/
  inStep : outcome.1 = .ok answer → outcome.2.store.InStep
  others : outcome.2 = { d with store := outcome.2.store }

/-- **A change of the store that writes one list** rewrites the collection, if what follows leaves
the desk as it is. -/
theorem rewrites_onStore (kind : RecordKind) {a : Action Store α} {f : α → Action Desk β} {x : α}
    {y : β} (hdepth : (arr records).depth ≤ Store.maxKept)
    (ha : a.perform d.store = d.store.rewritten kind.collection.key records x)
    (hf : ∀ e, kind.collection.records e = .ok records → (f x).perform e = (.ok y, e)) :
    d.Rewrites kind.collection records y ((onStore a >>= f).perform d) := by
  let written := d.store.assign kind.collection.key records
  have hlist (t : Store) (ht : t.entries = written.entries) :
      t.list kind.collection.key = .ok records :=
    Store.list_of_get? (ht ▸ Fields.get?_set_self ..) hdepth
  by_cases hsave : written.canSave = true
  · have hstore : (onStore a).perform d = (.ok x, { d with store := written.flushed }) := by
      rw [onStore, perform_within, ha, Store.rewritten, if_pos hsave]
    have hrecords := hlist written.flushed (Store.flushed_entries _)
    rw [perform_bind_of_ok hstore, hf { d with store := written.flushed } hrecords]
    exact ⟨(if_pos hsave).symm, hrecords, Store.flushed_entries _,
      fun _ ↦ Store.inStep_flushed _, rfl⟩
  · have hstore : (onStore a).perform d = (.error .unexpected, { d with store := written }) := by
      rw [onStore, perform_within, ha, Store.rewritten, if_neg hsave]
    rw [perform_bind_of_error hstore]
    exact ⟨(if_neg hsave).symm, hlist written rfl, rfl, fun h ↦ absurd h (by simp), rfl⟩

/-- A rewritten collection is not refused. -/
theorem Rewrites.ne_refused {c : Collection} {answer : α} {outcome : Except Failure α × Desk}
    (h : d.Rewrites c records answer outcome) (reason : Refusal) (e : Desk) :
    outcome ≠ (.error (.refused reason), e) := by
  intro heq
  have hanswer := h.answered
  rw [heq] at hanswer
  split at hanswer <;> cases hanswer

theorem Rewrites.answer_ne_refused {c : Collection} {answer : α} {outcome : Except Failure α × Desk}
    (h : d.Rewrites c records answer outcome) (reason : Refusal) :
    outcome.1 ≠ .error (.refused reason) :=
  fun heq ↦ h.ne_refused reason outcome.2 (Prod.ext heq rfl)

end Desk

end Organizer
