import Organizer.Proofs.Action.Preserving
import Organizer.Proofs.Store.CalendarIndex
import Organizer.Proofs.Store.Persistence

/-!
# What the records of a store have in common

Many invariants of a store speak of its records one by one: under this key, every record is like
that. Writes keep such an invariant (`Recordwise`), and if writes do, all operations do
(`Writewise`): they never look into the records that they move, and so it is enough to know that a
new record is as it should be under its key.

The invariant used most is `Holds P`: the records have the property `P`, which may depend on the
key, in the mapping and in what is found if the store is opened again. It holds of every store that
is opened on the empty mapping, and writes that fail do not harm it, for what they leave on the disk
was written before.
-/

namespace Organizer.Store

open Organizer.Action Json

variable {s t : Store} {entries : Fields}

/-- To sort makes no values up. -/
theorem mem_of_sorted {xs ys : List Json} (h : sorted xs = .ok ys) {y : Json} (hy : y ∈ ys) :
    y ∈ xs := by
  rw [sorted] at h
  split at h <;> cases h
  exact mem_of_sort? ‹_› hy

/-! ### Invariants that writes keep -/

/-- The invariant `I` says `P` of every record under its key, and is kept if such records are
written under a key with `K`. -/
structure Writewise (I : Store → Prop) (K : Scalar → Prop) (P : Scalar → Json → Prop) : Prop where
  records : ∀ {s key rs}, I s → s.list key = .ok rs → ∀ r ∈ rs, P key r
  write : ∀ {key rs}, K key → (∀ r ∈ rs, P key r) → Preserves I (writeRecords key rs)

/-- The invariant `I` says `P` of every record under its key, and is kept by each single change of
the mapping that puts such records under a key with `K`. A write may bring a second change with it,
of the index: it is one of these keys, and lists others. -/
structure Recordwise (I : Store → Prop) (K : Scalar → Prop) (P : Scalar → Json → Prop) : Prop where
  records : ∀ {s key rs}, I s → s.list key = .ok rs → ∀ r ∈ rs, P key r
  put : ∀ {key rs}, K key → (∀ r ∈ rs, P key r) → Preserves I (put key rs)
  index : K indexKey
  day : ∀ {key}, K key → isDayKey key = true → P indexKey (.scalar key)

section

variable {I : Store → Prop} {K : Scalar → Prop} {P : Scalar → Json → Prop} {key : Scalar}
  {record : Json} {rs : List Json}

theorem ensures_recordsAt {p : Json → Prop}
    (h : ∀ {s rs}, I s → s.list key = .ok rs → ∀ r ∈ rs, p r) :
    Ensures I (fun rs ↦ ∀ r ∈ rs, p r) (recordsAt key) :=
  .bind .get fun _ hs ↦ .ofExcept fun _ hlist ↦ h hs hlist

namespace Writewise

theorem append (h : Writewise I K P) (hkey : K key) (hrecord : P key record) :
    Preserves I (append key record) := by
  refine .ite (fun _ ↦ .refuse _) fun _ ↦ .bind (ensures_recordsAt h.records) fun old hold ↦
    h.write hkey fun r hr ↦ ?_
  rcases List.mem_append.1 hr with hr | hr
  · exact hold r hr
  · exact List.mem_singleton.1 hr ▸ hrecord

theorem replaceAt (h : Writewise I K P) (hkey : K key) (place : Json) (hrecord : P key record) :
    Preserves I (replaceAt key place record) := by
  refine .ite (fun _ ↦ .refuse _) fun _ ↦ .bind (ensures_recordsAt h.records) fun old hold ↦
    .bind (.ofExcept (.anything _)) fun i _ ↦ h.write hkey fun r hr ↦ ?_
  rcases List.mem_or_eq_of_mem_set hr with hr | rfl
  · exact hold r hr
  · exact hrecord

theorem removeAt (h : Writewise I K P) (hkey : K key) (place : Json) :
    Preserves I (removeAt key place) :=
  .bind (ensures_recordsAt h.records) fun _ hold ↦ .bind (.ofExcept (.anything _)) fun _ _ ↦
    .bind (h.write hkey fun r hr ↦ hold r (List.mem_of_mem_eraseIdx hr)) fun _ _ ↦ .pure trivial

theorem removeWhere (h : Writewise I K P) (hkey : K key) (test : Test) :
    Preserves I (removeWhere key test) := by
  refine .bind (ensures_recordsAt h.records) fun old hold ↦
    .bind (p := fun split ↦ ∀ r ∈ split.1, P key r) (.require ?_) ?_
  · rintro ⟨kept, removed⟩ hsplit r hr
    exact hold r (Operation.mem_of_partition? hsplit hr)
  · rintro ⟨kept, removed⟩ hkept
    exact .ite (fun _ ↦ (h.write hkey hkept).bind fun _ _ ↦ .pure trivial)
      fun _ ↦ .pure trivial

end Writewise

namespace Recordwise

/-- Days are taken from the old index, but for the one that is kept track of. -/
theorem trackDay (h : Recordwise I K P) (hkey : K key) (hday : isDayKey key = true)
    (active : Bool) : Preserves I (trackDay key active) := by
  refine .bind (ensures_recordsAt h.records) fun index hindex ↦ .ite (fun _ ↦ .fail) fun _ ↦
    .ite (fun _ ↦ .pure trivial) fun _ ↦ ?_
  refine .bind (p := fun days ↦ ∀ x ∈ days, P indexKey x) (.ofExcept fun days hsorted x hx ↦ ?_)
    fun days hdays ↦ h.put h.index hdays
  have hold (y : Json) (hy : y ∈ distinct index) : P indexKey y := hindex y (mem_of_distinct hy)
  have hmem := mem_of_sorted hsorted hx
  cases active with
  | true =>
    rcases List.mem_append.1 hmem with hmem | hmem
    · exact hold x hmem
    · exact List.mem_singleton.1 hmem ▸ h.day hkey hday
  | false => exact hold x (List.mem_filter.1 hmem).1

/-- **A write keeps the invariant**, with whatever it brings with it. -/
theorem writewise (h : Recordwise I K P) : Writewise I K P where
  records := h.records
  write hkey hrs := .bind (h.put hkey hrs) fun _ _ ↦ .ite (fun _ ↦ .fail) fun _ ↦
    .ite (fun hday ↦ h.trackDay hkey hday _) fun _ ↦ .pure trivial

end Recordwise

end

/-! ### Records with a property -/

/-- The mapping is proper JSON and has an index, and under each key stands a list of records with
the property, which is not too deep to be handed out. -/
structure Holding (P : Scalar → Json → Prop) (entries : Fields) : Prop extends Proper entries where
  records : ∀ {key v}, entries.get? key = some v →
    ∃ rs, v = .arr rs ∧ v.depth ≤ maxKept ∧ ∀ r ∈ rs, P key r

/-- The records have the property, and so have those that are found if the store is opened again. -/
structure Holds (P : Scalar → Json → Prop) (s : Store) : Prop where
  holding : Holding P s.entries
  onDisk : ∃ entries, s.onDisk = .ok entries ∧ Holding P entries

/-- Only proper JSON has the property, and a day has it in the index. -/
structure Keepable (P : Scalar → Json → Prop) : Prop where
  isProper : ∀ {key record}, P key record → record.isProper = true
  day : ∀ {text : String}, isDayKey text = true → P indexKey (.str text)

section Keepable

variable {P : Scalar → Json → Prop} {key : Scalar} {rs : List Json}

theorem Holding.set (hP : Keepable P) (h : Holding P entries) (hkey : key.isText = true)
    (hrs : ∀ r ∈ rs, P key r) (hdepth : (Json.arr rs).depth ≤ maxKept) :
    Holding P (entries.set key (.arr rs)) where
  toProper := h.toProper.set hkey (itemsAreProper_iff.2 fun r hr ↦ hP.isProper (hrs r hr))
  records := by
    intro k v hget
    by_cases heq : k = key
    · rw [heq, Fields.get?_set_self] at hget
      cases hget
      exact ⟨rs, rfl, hdepth, heq ▸ hrs⟩
    · rw [Fields.get?_set_of_ne _ _ heq] at hget
      exact h.records hget

theorem onDisk_assign (hfile : s.backing ≠ .memory) (key : Scalar) (rs : List Json) :
    (s.assign key rs).onDisk = s.onDisk := by
  simp only [Store.onDisk, assign]
  split
  · exact absurd ‹_› hfile
  · rfl
  · rfl

/-- A write that succeeds reaches the disk, and one that fails leaves there what was there. -/
theorem Holds.put (hP : Keepable P) (hkey : key.isText = true) (hrs : ∀ r ∈ rs, P key r) :
    Preserves (Holds P) (put key rs) := by
  intro s hs
  refine ⟨?_, .anything _⟩
  rw [perform_put]
  split
  · exact hs
  · rename_i hdepth
    have hset : Holding P (s.assign key rs).entries :=
      hs.holding.set hP hkey hrs (Nat.not_lt.1 hdepth)
    rw [perform_flush]
    split
    · rename_i hsave
      refine ⟨?_, (s.assign key rs).entries, ?_, hset⟩
      · rw [flushed_entries]
        exact hset
      · rw [onDisk_of_inStep (inStep_flushed _) ((canSave_flushed _).trans hsave),
          flushed_entries, rereadEntries_of_isProper hset.isProper, ite_self]
    · rename_i hsave
      have hfile : s.backing ≠ .memory := by
        intro hmemory
        simp [canSave, assign, hmemory] at hsave
      exact ⟨hset, onDisk_assign hfile key rs ▸ hs.onDisk⟩

theorem Holding.of_list (h : Holding P s.entries) (hlist : s.list key = .ok rs) :
    ∀ r ∈ rs, P key r := by
  rw [list] at hlist
  split at hlist
  · cases hlist
    exact List.forall_mem_nil _
  · obtain ⟨old, rfl, hdepth, hold⟩ := h.records ‹_›
    rw [if_neg (Nat.not_lt.2 hdepth)] at hlist
    cases hlist
    exact hold

/-- The records under a key can be handed out. -/
theorem Holding.exists_list (h : Holding P s.entries) (key : Scalar) :
    ∃ rs, s.list key = .ok rs ∧ ∀ r ∈ rs, P key r := by
  cases hget : s.entries.get? key with
  | none => exact ⟨[], by rw [list, hget], List.forall_mem_nil _⟩
  | some v =>
    obtain ⟨rs, rfl, hdepth, hrs⟩ := h.records hget
    exact ⟨rs, list_of_get? hget hdepth, hrs⟩

/-- **That records have a property is an invariant about single records.** -/
theorem recordwise_holds (hP : Keepable P) :
    Recordwise (Holds P) (fun key ↦ ∃ text : String, key = .text text) P where
  records hs hlist := hs.holding.of_list hlist
  put hkey hrs := Holds.put hP (by obtain ⟨text, rfl⟩ := hkey; rfl) hrs
  index := ⟨indexKey, rfl⟩
  day hkey hday := by
    obtain ⟨text, rfl⟩ := hkey
    exact hP.day hday

end Keepable

/-! ### Opening on the empty mapping -/

/-- A store that is opened on the empty mapping has an empty index and nothing else, and this is
what is found if it is opened again. -/
theorem Opens.begins (h : Opens [] s) :
    s.entries = [(.text indexKey, .arr [])] ∧ s.onDisk = .ok s.entries ∧ Proper s.entries := by
  obtain ⟨u, hentries, hdisk, hopen⟩ := h.exists_withIndex
  have hpersisted : Persisted s := persisted_of_withIndex (by rw [hentries]; rfl)
    (hdisk.trans (by rw [hentries])) hopen
  refine ⟨?_, hpersisted.onDisk, hpersisted.proper⟩
  rcases withIndex_cases hopen with ⟨hindex, -⟩ | ⟨-, days, hdays, -, rfl⟩
  · rw [hentries] at hindex
    exact absurd hindex (by simp)
  · rw [activeDays, hentries] at hdays
    have hempty : sorted [] = .ok [] := by decide +kernel
    have hnone : days = [] := (Except.ok.inj (hempty.symm.trans hdays)).symm
    rw [flushed_entries, assign, hentries, hnone]
    rfl

theorem Opens.holds {P : Scalar → Json → Prop} (h : Opens [] s) : Holds P s := by
  obtain ⟨hmapping, hdisk, hproper⟩ := h.begins
  have hholding : Holding P s.entries := by
    refine ⟨hproper, ?_⟩
    intro key v hget
    rw [hmapping, Fields.get?_cons] at hget
    split at hget <;> cases hget
    exact ⟨[], rfl, by decide, List.forall_mem_nil _⟩
  exact ⟨hholding, s.entries, hdisk, hholding⟩

end Organizer.Store
