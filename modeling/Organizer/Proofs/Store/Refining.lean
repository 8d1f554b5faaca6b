import Mathlib.Order.Bounds.Basic
import Organizer.Proofs.Number.Shortest
import Organizer.Proofs.Store.FailedWrites

/-!
# The store as a map of lists

Seen from outside, a store is a map from keys to lists of records: what stands under a key is its
list, and a value of another kind, or none, counts as the empty list (`recordsUnder`). This module
says what each operation does to that list, and that it does nothing else but let the calendar index
follow (`RefinesList`). Since the index goes on listing texts, the same holds of the next operation.

There are three limits. A value of more than `maxKept` levels can be neither handed out nor taken
in, and then nothing happens at all. A mapping that cannot be written out makes every write to a
file fail: the records then stand under the key in the mapping, but the operation does not answer
(`Gives`). And what names no place is refused in a message that shows it, so that a value that
cannot be shown is not refused but fails, which changes nothing either (`Declines`). Short of these
the operations are those of lists, and all three limits can be reached (`not_always_lists`).
-/

namespace Organizer.Store

open Organizer.Action Json Text

variable {s t : Store} {key : Scalar} {records L : List Json}

/-! ### Lists of records -/

/-- The records under a key: a value that is no list, or none, counts as the empty list. -/
def recordsUnder (s : Store) (key : Scalar) : List Json :=
  match s.entries.get? key with
  | some (.arr records) => records
  | _ => []

/-- A value that is not too deep is handed out. -/
theorem list_eq_recordsUnder (hdepth : ∀ v, s.entries.get? key = some v → v.depth ≤ maxKept) :
    s.list key = .ok (s.recordsUnder key) := by
  rw [list, recordsUnder]
  cases hget : s.entries.get? key with
  | none => rfl
  | some v =>
    dsimp only
    rw [if_neg (Nat.not_lt.2 (hdepth v hget))]
    cases v <;> rfl

theorem depthOfItems_le_iff {n : Nat} {xs : List Json} :
    depthOfItems xs ≤ n ↔ ∀ x ∈ xs, x.depth ≤ n := by
  induction xs with
  | nil => simp [depthOfItems]
  | cons x xs ih => rw [depthOfItems, max_le_iff, ih, List.forall_mem_cons]

/-- Some of the records of a list are not deeper than the list. -/
theorem depth_of_subset (h : records ⊆ L) : (Json.arr records).depth ≤ (Json.arr L).depth := by
  rw [depth, depth]
  exact Nat.succ_le_succ (depthOfItems_le_iff.2 fun x hx ↦ depthOfItems_le_iff.1 le_rfl x (h hx))

/-- The calendar index is a list of texts. -/
def TextIndex (entries : Fields) : Prop :=
  ∃ days : List (List CodePoint), entries.get? indexKey = some (.arr (days.map Json.spelled))

theorem TextIndex.trackable (h : TextIndex s.entries) : s.Trackable := by
  obtain ⟨days, hget⟩ := h
  exact ⟨days, list_of_get? hget (depth_map_spelled days)⟩

/-- **The index stays a list of texts**, whatever is written under other keys. -/
theorem recordwise_textIndex : Recordwise (fun s ↦ TextIndex s.entries) Scalar.IsSpelled
    fun key record ↦ key = indexKey → ∃ ps, record = Json.spelled ps where
  records := by
    rintro s key rs ⟨days, hget⟩ hlist r hr rfl
    rw [list_of_get? hget (depth_map_spelled days)] at hlist
    cases hlist
    obtain ⟨ps, -, rfl⟩ := List.mem_map.1 hr
    exact ⟨ps, rfl⟩
  put := by
    intro key rs _ hrs s hs
    refine ⟨?_, .anything _⟩
    rcases hput : (put key rs).perform s with ⟨r, t⟩
    show TextIndex t.entries
    rcases entries_of_put hput with heq | heq <;> rw [heq]
    · exact hs
    · by_cases hkey : key = indexKey
      · subst hkey
        obtain ⟨days, rfl⟩ : rs ∈ Set.range (List.map Json.spelled) := by
          rw [Set.range_list_map]
          intro r hr
          obtain ⟨ps, rfl⟩ := hrs r hr rfl
          exact ⟨ps, rfl⟩
        exact ⟨days, Fields.get?_set_self ..⟩
      · obtain ⟨days, hget⟩ := hs
        exact ⟨days, (Fields.get?_set_of_ne _ _ (Ne.symm hkey)).trans hget⟩
  index := Scalar.isSpelled_text indexKey
  day := by
    rintro key ⟨ps, rfl⟩ _ _
    exact ⟨ps, rfl⟩

/-! ### Writing a list -/

/-- The key has been given the records, and nothing else has changed but the calendar index: a key
that was there has kept its place, and a new one comes last. -/
structure Given (s : Store) (key : Scalar) (records : List Json) (t : Store) : Prop where
  list : t.list key = .ok records
  others : ∀ k : Scalar, k ≠ key → k ≠ indexKey → t.entries.get? k = s.entries.get? k
  keys : t.entries.keys =
    if key ∈ s.entries.keys then s.entries.keys else s.entries.keys ++ [key]
  index : TextIndex t.entries

/-- The key is given the records, and the answer is given with it, unless the mapping cannot be
written out. -/
structure Gives (s : Store) (key : Scalar) (records : List Json) (answer : Answer)
    (outcome : Except Failure Answer × Store) : Prop where
  answer : outcome.1 = if (s.assign key records).canSave then .ok answer else .error .unexpected
  given : Given s key records outcome.2

/-- Records that may be too deep: the key is given them if they are not, else nothing happens. -/
structure Takes (s : Store) (key : Scalar) (records : List Json) (answer : Answer)
    (outcome : Except Failure Answer × Store) : Prop where
  gives : (Json.arr records).depth ≤ maxKept → Gives s key records answer outcome
  tooDeep : maxKept < (Json.arr records).depth → outcome = (.error .unexpected, s)

/-- A mapping that has the records under the key, and perhaps another index. -/
theorem Given.of_entries (hindex : TextIndex s.entries) (hother : key ≠ indexKey)
    (hdepth : (Json.arr records).depth ≤ maxKept) (htexts : TextIndex t.entries)
    (hentries : t.entries = s.entries.set key (.arr records) ∨ ∃ days,
      t.entries = (s.entries.set key (.arr records)).set indexKey (.arr days)) :
    Given s key records t := by
  have hmem : (Scalar.text indexKey) ∈ (s.entries.set key (.arr records)).keys := by
    obtain ⟨days, hget⟩ := hindex
    rw [← Fields.get?_set_of_ne _ (.arr records) hother.symm] at hget
    exact Fields.mem_keys_of_get? hget
  have hget (k : Scalar) (hk : k ≠ indexKey) :
      t.entries.get? k = (s.entries.set key (.arr records)).get? k := by
    rcases hentries with heq | ⟨days, heq⟩ <;> rw [heq]
    exact Fields.get?_set_of_ne _ _ hk
  have hkeys : t.entries.keys = (s.entries.set key (.arr records)).keys := by
    rcases hentries with heq | ⟨days, heq⟩ <;> rw [heq]
    rw [Fields.keys_set, if_pos hmem]
  exact {
    list := list_of_get? ((hget key hother).trans (Fields.get?_set_self ..)) hdepth
    others := fun k hk hk' ↦ (hget k hk').trans (Fields.get?_set_of_ne _ _ hk)
    keys := hkeys.trans (Fields.keys_set ..)
    index := htexts }

/-- What is put is in the mapping, whether or not it can be written out. -/
theorem perform_put_of_depth (s : Store) (key : Scalar)
    (hdepth : (Json.arr records).depth ≤ maxKept) :
    (put key records).perform s =
      if (s.assign key records).canSave then (.ok (), (s.assign key records).flushed)
      else (.error .unexpected, s.assign key records) := by
  rw [perform_put, if_neg (Nat.not_lt.2 hdepth), perform_flush]

/-- What a write makes of the mapping, unless the records are too deep. -/
theorem entries_of_writeRecords (hdepth : (Json.arr records).depth ≤ maxKept)
    {r : Except Failure Unit} (h : (writeRecords key records).perform s = (r, t)) :
    t.entries = s.entries.set key (.arr records) ∨ ∃ days,
      t.entries = (s.entries.set key (.arr records)).set indexKey (.arr days) := by
  have hput := perform_put_of_depth s key hdepth
  rw [writeRecords_eq] at h
  split at hput
  · rw [perform_bind_of_ok hput, followUp, perform_ite, perform_ite, perform_fail,
      perform_pure] at h
    -- of what follows, only the index can be a second write
    have hflushed : (s.assign key records).flushed.entries = s.entries.set key (.arr records) :=
      flushed_entries _
    split at h
    · cases h
      exact .inl hflushed
    · split at h
      · rcases trackDay_cases h with rfl | ⟨days, -, hput⟩
        · exact .inl hflushed
        · rcases entries_of_put hput with heq | heq
          · exact .inl (heq.trans hflushed)
          · exact .inr ⟨days, hflushed ▸ heq⟩
      · cases h
        exact .inl hflushed
  · rw [perform_bind_of_error hput] at h
    cases h
    exact .inl rfl

/-- **A list that is written stands under its key**, and nothing else changes. -/
theorem given_writeRecords (hindex : TextIndex s.entries) (hkey : key.IsSpelled)
    (hother : key ≠ indexKey) (hdepth : (Json.arr records).depth ≤ maxKept) :
    ((writeRecords key records).perform s).1 =
        (if (s.assign key records).canSave then .ok () else .error .unexpected) ∧
      Given s key records ((writeRecords key records).perform s).2 := by
  have htexts : TextIndex ((writeRecords key records).perform s).2.entries :=
    (recordwise_textIndex.writewise.write hkey (fun _ _ heq ↦ absurd heq hother) s hindex).1
  refine ⟨?_, .of_entries hindex hother hdepth htexts (entries_of_writeRecords hdepth rfl)⟩
  have hput := perform_put_of_depth s key hdepth
  rw [writeRecords_eq]
  split at hput
  · -- the index is one of texts, and so it can follow
    obtain ⟨t, hfollow⟩ := exists_perform_followUp_of_put hput hkey fun _ ↦ hindex.trackable
    rw [perform_bind_of_ok hput, hfollow, if_pos ‹_›]
  · rw [perform_bind_of_error hput, if_neg ‹_›]

/-! ### Operations on a list -/

namespace Operation

/-- An operation without a plan does nothing. -/
theorem perform_of_plan_error {o : Operation} {e : Failure} (h : o.plan s = .error e) :
    o.perform s = (.error e, s) := by
  rw [perform_eq]
  exact perform_bind_of_error ((perform_ofExcept _ s).trans (congrArg (·, s) h))

/-- An operation that has nothing to write answers. -/
theorem perform_of_plan_none {o : Operation} {answer : Answer}
    (h : o.plan s = .ok (answer, none)) : o.perform s = (.ok answer, s) := by
  rw [perform_eq, perform_bind_of_ok ((perform_ofExcept _ s).trans (congrArg (·, s) h))]
  rfl

/-- An operation gives a key the records that it has planned to write. -/
theorem takes_of_plan {o : Operation} {answer : Answer} (hindex : TextIndex s.entries)
    (hkey : key.IsSpelled) (hother : key ≠ indexKey)
    (h : o.plan s = .ok (answer, some (key, records))) :
    Takes s key records answer (o.perform s) := by
  rw [perform_of_plan h]
  constructor
  · intro hdepth
    obtain ⟨hanswer, hgiven⟩ := given_writeRecords hindex hkey hother hdepth
    refine ⟨?_, hgiven⟩
    rw [hanswer]
    split <;> rfl
  · intro hdeep
    have hput : (put key records).perform s = (.error .unexpected, s) := by
      rw [perform_put, if_pos hdeep]
    rw [writeRecords_eq, perform_bind_of_error hput]
    rfl

end Operation

/-- A test that judges every record. -/
def testOf (p : Json → Bool) : Test := fun record ↦ some (p record)

theorem partition?_testOf (p : Json → Bool) (L : List Json) :
    partition? (testOf p) L = some (L.filter fun r ↦ !p r, L.filter p) := by
  induction L with
  | nil => rfl
  | cons r L ih =>
    rw [partition?, ih]
    cases hp : p r <;> simp [testOf, hp]

theorem firstPlace_testOf (p : Json → Bool) (place : ℕ) (L : List Json) :
    firstPlace (testOf p) place L = .ok ((L.findIdx? p).map (· + place)) := by
  induction L generalizing place with
  | nil => rfl
  | cons r L ih =>
    rw [firstPlace, testOf, List.findIdx?_cons]
    cases hp : p r with
    | true => simp
    | false =>
      simp only [ih, Bool.false_eq_true, if_false, Option.map_map]
      congr 2
      funext i
      simp only [Function.comp_apply]
      omega

/-- The places, counted from one, of the records that pass a test. -/
def passing (p : Json → Bool) (L : List Json) : Set ℕ :=
  {i | ∃ j r, i = j + 1 ∧ L[j]? = some r ∧ p r = true}

/-- A search finds the least place of a record that passes the test. -/
theorem findIdx?_eq_some_iff_isLeast (p : Json → Bool) (L : List Json) (i : ℕ) :
    (L.findIdx? p).map (· + 1) = some i ↔ IsLeast (passing p L) i := by
  rw [Option.map_eq_some_iff]
  constructor
  · rintro ⟨j, hj, rfl⟩
    obtain ⟨hlt, hpass, hfirst⟩ := List.findIdx?_eq_some_iff_getElem.1 hj
    refine ⟨⟨j, L[j], rfl, List.getElem?_eq_getElem hlt, hpass⟩, ?_⟩
    rintro _ ⟨k, r, rfl, hk, hr⟩
    by_contra hlater
    obtain ⟨hlt', rfl⟩ := List.getElem?_eq_some_iff.1 hk
    exact hfirst k (by omega) hr
  · rintro ⟨⟨j, r, rfl, hj, hr⟩, hleast⟩
    obtain ⟨hlt, rfl⟩ := List.getElem?_eq_some_iff.1 hj
    refine ⟨j, List.findIdx?_eq_some_iff_getElem.2 ⟨hlt, hr, fun k hk hpass ↦ ?_⟩, rfl⟩
    have hle := hleast ⟨k, L[k], rfl, List.getElem?_eq_getElem (by omega), hpass⟩
    omega

/-- A place is counted from one. -/
theorem placeOf_int {i count : ℕ} (h : i < count) : placeOf (.int (i + 1)) count = .ok i := by
  rw [placeOf, if_pos (by omega)]
  congr 1

/-- What names no place has none. -/
theorem placeOf_of_forall_ne {place : Json} {count : ℕ} (h : ∀ i < count, place ≠ .int (i + 1)) :
    placeOf place count = .error (noPlace place) := by
  unfold placeOf
  split
  · rename_i n
    refine if_neg ?_
    rintro ⟨hpos, hle⟩
    refine h (n.toNat - 1) (by omega) (congrArg Json.int ?_)
    omega
  · rfl

/-- A value that names no place is refused, in a message that shows it; what cannot be shown fails
without a refusal. Nothing changes. -/
structure Declines (s : Store) (place : Json) (outcome : Except Failure Answer × Store) : Prop where
  refused : place.isShowable = true →
    outcome = (.error (.refused (.noSuchRecord place.display)), s)
  notShown : place.isShowable = false → outcome = (.error .unexpected, s)

/-- An operation whose plan stops at a place declines it. -/
theorem Operation.declines {o : Operation} {place : Json} (h : o.plan s = .error (noPlace place)) :
    Declines s place (o.perform s) := by
  rw [perform_of_plan_error h, noPlace, display?]
  constructor <;> intro hshown <;> simp [hshown]

/-- What the operations under a key do if its list is `L`. Places are counted from one. -/
structure RefinesList (s : Store) (key : Scalar) (L : List Json) : Prop where
  list : (Operation.list key).perform s = (.ok (.records L), s)
  findFirst : ∀ p, ∃ found,
    (Operation.findFirst key (testOf p)).perform s = (.ok (.place found), s) ∧
      (∀ i, found = some i ↔ IsLeast (passing p L) i) ∧
      (found = none ↔ ∀ record ∈ L, p record = false)
  append : ∀ record, record.isNothing = false → isBlankText record = false →
    Takes s key (L ++ [record]) .done ((Operation.append key record).perform s)
  append_nothing : ∀ record, record.isNothing = true ∨ isBlankText record = true →
    (Operation.append key record).perform s = (.error (.refused (.empty .record)), s)
  replaceAt : ∀ i < L.length, ∀ record, isBlankText record = false →
    Takes s key (L.set i record) .done
      ((Operation.replaceAt key (.int (i + 1)) record).perform s)
  replaceAt_blank : ∀ place record, isBlankText record = true →
    (Operation.replaceAt key place record).perform s = (.error (.refused (.empty .record)), s)
  replaceAt_noPlace : ∀ place record, isBlankText record = false →
    (∀ i < L.length, place ≠ .int (i + 1)) →
    Declines s place ((Operation.replaceAt key place record).perform s)
  removeAt : ∀ i (h : i < L.length), Gives s key (L.eraseIdx i) (.record L[i])
    ((Operation.removeAt key (.int (i + 1))).perform s)
  removeAt_noPlace : ∀ place, (∀ i < L.length, place ≠ .int (i + 1)) →
    Declines s place ((Operation.removeAt key place).perform s)
  removeWhere : ∀ p, (∃ record ∈ L, p record = true) →
    Gives s key (L.filter fun record ↦ !p record) (.records (L.filter p))
      ((Operation.removeWhere key (testOf p)).perform s)
  removeWhere_none : ∀ p, (∀ record ∈ L, p record = false) →
    (Operation.removeWhere key (testOf p)).perform s = (.ok (.records []), s)
  replaceAll : ∀ M, Takes s key M .done ((Operation.replaceAll key (.arr M)).perform s)

/-- **A store is a map of lists.** Its calendar index lists texts. Then the operations under any
other key are those of the list that stands there, if its value is not too deep to be handed out. -/
theorem refinesList (hindex : TextIndex s.entries) (hkey : key.IsSpelled)
    (hother : key ≠ indexKey) (hdepth : ∀ v, s.entries.get? key = some v → v.depth ≤ maxKept) :
    RefinesList s key (s.recordsUnder key) := by
  have hlist := list_eq_recordsUnder hdepth
  generalize s.recordsUnder key = L at hlist ⊢
  -- what is written is planned, and some of the records are never too deep
  have htakes {o : Operation} {answer : Answer} {records : List Json}
      (h : o.plan s = .ok (answer, some (key, records))) :
      Takes s key records answer (o.perform s) :=
    Operation.takes_of_plan hindex hkey hother h
  have hgives {o : Operation} {answer : Answer} {records : List Json}
      (h : o.plan s = .ok (answer, some (key, records))) (hsubset : records ⊆ L) :
      Gives s key records answer (o.perform s) :=
    (htakes h).gives ((depth_of_subset hsubset).trans (depth_of_list hlist))
  constructor
  case list =>
    exact Operation.perform_of_plan_none (by rw [Operation.plan, hlist]; rfl)
  case findFirst =>
    intro p
    refine ⟨(L.findIdx? p).map (· + 1), Operation.perform_of_plan_none ?_,
      findIdx?_eq_some_iff_isLeast p L, ?_⟩
    · rw [Operation.plan, Store.findFirst, hlist, ok_bind, firstPlace_testOf]
      rfl
    · rw [Option.map_eq_none_iff, List.findIdx?_eq_none_iff]
  case append =>
    intro record hnothing hblank
    refine htakes ?_
    rw [Operation.plan, isBlankRecord, hnothing, hblank, hlist]
    rfl
  case append_nothing =>
    intro record h
    refine Operation.perform_of_plan_error ?_
    rw [Operation.plan, isBlankRecord, if_pos (Bool.or_eq_true_iff.2 h)]
  case replaceAt =>
    intro i hi record hblank
    refine htakes ?_
    rw [Operation.plan, hblank, hlist, if_neg Bool.false_ne_true, ok_bind, placeOf_int hi]
    rfl
  case replaceAt_blank =>
    intro place record hblank
    refine Operation.perform_of_plan_error ?_
    rw [Operation.plan, if_pos hblank]
  case replaceAt_noPlace =>
    intro place record hblank hplace
    refine Operation.declines ?_
    rw [Operation.plan, hblank, hlist, if_neg Bool.false_ne_true, ok_bind,
      placeOf_of_forall_ne hplace]
    rfl
  case removeAt =>
    intro i hi
    refine hgives ?_ (List.eraseIdx_subset)
    rw [Operation.plan, hlist, ok_bind, placeOf_int hi, ok_bind, List.getElem?_eq_getElem hi]
    rfl
  case removeAt_noPlace =>
    intro place hplace
    refine Operation.declines ?_
    rw [Operation.plan, hlist, ok_bind, placeOf_of_forall_ne hplace]
    rfl
  case removeWhere =>
    rintro p ⟨record, hmem, hp⟩
    have hsome : (L.filter p).isEmpty = false :=
      List.isEmpty_eq_false_iff.2 (List.ne_nil_of_mem (List.mem_filter.2 ⟨hmem, hp⟩))
    refine hgives ?_ (List.filter_subset_self L)
    rw [Operation.plan, hlist, ok_bind, partition?_testOf]
    simp only [hsome, Bool.false_eq_true, if_false]
  case removeWhere_none =>
    intro p hp
    have hnone : L.filter p = [] := List.filter_eq_nil_iff.2 fun r hr ↦ by simp [hp r hr]
    refine Operation.perform_of_plan_none ?_
    rw [Operation.plan, hlist, ok_bind, partition?_testOf, hnone]
    rfl
  case replaceAll =>
    intro M
    exact htakes rfl

/-- A day has a value that is no list, and is in the index all the same. Its first event makes a list
of it, and the day keeps its place before the notes. -/
theorem refinesList_first :
    let s : Store := ⟨[(indexKey, .arr [.str "cal-250101"]), ("cal-250101", .null),
      ("notes", .arr [.str "a"])], .memory⟩
    TextIndex s.entries ∧ (Scalar.text "cal-250101").IsSpelled ∧ s.recordsUnder "cal-250101" = [] ∧
      ∃ t, (Operation.append "cal-250101" (.str "x")).perform s = (.ok .done, t) ∧
        t.list "cal-250101" = .ok [.str "x"] ∧ t.entries.get? "notes" = some (.arr [.str "a"]) ∧
        t.entries.keys = s.entries.keys := by
  intro s
  have hindex : TextIndex s.entries := ⟨["cal-250101".toList.map .char], by decide +kernel⟩
  have hkey := Scalar.isSpelled_text "cal-250101"
  have hrefines := refinesList hindex hkey (by decide +kernel) fun v hv ↦ by
    cases (show some (.null : Json) = some v from hv)
    decide
  have hgives := (hrefines.append (.str "x") rfl (by decide +kernel)).gives (by decide +kernel)
  rcases houtcome : (Operation.append "cal-250101" (.str "x")).perform s with ⟨r, t⟩
  rw [houtcome] at hgives
  obtain ⟨hanswer, hgiven⟩ := hgives
  have hnotes := hgiven.others "notes" (by decide +kernel) (by decide +kernel)
  have hplace : Scalar.text "cal-250101" ∈ s.entries.keys := by decide +kernel
  exact ⟨hindex, hkey, rfl, t, congrArg (·, t) hanswer, hgiven.list,
    hnotes.trans (by decide +kernel), hgiven.keys.trans (if_pos hplace)⟩

/-- The least number with too many digits cannot be shown. -/
theorem isShowable_pow : (Json.int (10 ^ maxDigits : ℕ)).isShowable = false := by
  have hlength : (Number.digits (10 ^ maxDigits)).length = maxDigits + 1 :=
    Number.length_digits_eq le_rfl (Nat.pow_lt_pow_succ (by decide))
  rw [isShowable, allScalars, Scalar.isShowable, Int.natAbs_natCast, hlength,
    decide_eq_false (Nat.not_succ_le_self _), Bool.false_and]

/-- A list in a list, so many levels deep. -/
def nested : ℕ → Json
  | 0 => .arr []
  | levels + 1 => .arr [nested levels]

theorem depth_nested (levels : ℕ) : (nested levels).depth = levels + 1 := by
  induction levels with
  | zero => rfl
  | succ levels ih => rw [nested, depth, depthOfItems, depthOfItems, ih, Nat.max_zero]

/-- **A store is not a map of lists without limits.** Where a lone half of a pair stands anywhere in
the file, the records that are removed are not answered with; a record that is nested too deep is
not appended; and a number of too many digits, which is the place of no record, is not refused. -/
theorem not_always_lists :
    (¬ ∀ (s : Store) (key : Scalar) (p : Json → Bool), TextIndex s.entries → key.IsSpelled →
      key ≠ indexKey → ((Operation.removeWhere key (testOf p)).perform s).1 =
        .ok (.records ((s.recordsUnder key).filter p))) ∧
    (¬ ∀ (s : Store) (key : Scalar) (record : Json), TextIndex s.entries → key.IsSpelled →
      key ≠ indexKey → isBlankRecord record = false →
      ((Operation.append key record).perform s).2.recordsUnder key =
        s.recordsUnder key ++ [record]) ∧
    ¬ ∀ (s : Store) (key : Scalar) (place : Json), TextIndex s.entries → key.IsSpelled →
      key ≠ indexKey → (∀ i < (s.recordsUnder key).length, place ≠ .int (i + 1)) →
      ∃ reason, ((Operation.removeAt key place).perform s).1 = .error (.refused reason) := by
  refine ⟨?_, ?_, ?_⟩
  · intro h
    have hwrong := h ⟨[(indexKey, .arr []), ("notes", .arr [.scalar (.torn [.half 0])]),
      ("contacts", .arr [.obj [("name", .str "Bob"), ("info", .str "x")]])], .file []⟩
      "contacts" (fun _ ↦ true) ⟨[], rfl⟩ (Scalar.isSpelled_text _) (by decide +kernel)
    exact absurd hwrong (by decide +kernel)
  · intro h
    let s : Store := ⟨[(indexKey, .arr [])], .memory⟩
    have hindex : TextIndex s.entries := ⟨[], rfl⟩
    have hkey := Scalar.isSpelled_text "notes"
    have hplan : (Operation.append "notes" (nested maxKept)).plan s =
        .ok (.done, some ("notes", [nested maxKept])) := rfl
    have hdeep : maxKept < (Json.arr [nested maxKept]).depth := by
      rw [depth, depthOfItems, depth_nested]
      omega
    have hsame := (Operation.takes_of_plan hindex hkey (by decide +kernel) hplan).tooDeep hdeep
    have hwrong := h s "notes" (nested maxKept) hindex hkey (by decide +kernel) rfl
    rw [hsame] at hwrong
    exact absurd hwrong (by simp [recordsUnder, s])
  · intro h
    let s : Store := ⟨[(indexKey, .arr [])], .memory⟩
    let place : Json := .int (10 ^ maxDigits : ℕ)
    have hnone (i : ℕ) (hi : i < 0) : place ≠ .int (i + 1) := absurd hi (Nat.not_lt_zero i)
    have hlist : s.list "notes" = .ok [] := by decide +kernel
    have hplan : (Operation.removeAt "notes" place).plan s = .error (noPlace place) := by
      rw [Operation.plan, hlist, ok_bind, List.length_nil, placeOf_of_forall_ne hnone]
      rfl
    obtain ⟨reason, hreason⟩ :=
      h s "notes" place ⟨[], rfl⟩ (Scalar.isSpelled_text _) (by decide +kernel) hnone
    rw [(Operation.declines hplan).notShown isShowable_pow] at hreason
    cases hreason

end Organizer.Store
