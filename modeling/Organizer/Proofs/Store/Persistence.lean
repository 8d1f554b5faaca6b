import Organizer.Proofs.Json.Sorting
import Organizer.Proofs.Store.Writing

/-!
# Persistence is transparent

A store in a file and a store in memory on the same mapping cannot be told apart by what they
answer, however often the one in the file is opened again (`file_run_eq_memory_run`). The reason is
an invariant of the store in the file, `Persisted`: the mapping is proper JSON, it is what the file
holds, and it has a calendar index, so that nothing is added when the file is opened.
-/

namespace Organizer.Store

open Organizer.Action Json

variable {s t : Store}

/-- The mapping is proper JSON and has a calendar index. -/
structure Proper (entries : Fields) : Prop where
  isProper : (Json.obj entries).isProper = true
  hasIndex : (entries.get? indexKey).isSome = true

theorem Proper.set {entries : Fields} (h : Proper entries) {key : Scalar} {records : List Json}
    (hkey : key.isText = true) (hrecords : itemsAreProper records = true) :
    Proper (entries.set key (.arr records)) where
  isProper := isProper_set h.isProper hkey hrecords
  hasIndex := by
    by_cases heq : indexKey = key
    · rw [heq, Fields.get?_set_self]
      rfl
    · rw [Fields.get?_set_of_ne _ _ heq]
      exact h.hasIndex

/-! ### What a change does to the mapping -/

/-- A write either leaves the mapping or gives the key its records. -/
theorem entries_of_put {key : Scalar} {records : List Json} {r : Except Failure Unit}
    (h : (put key records).perform s = (r, t)) :
    t.entries = s.entries ∨ t.entries = s.entries.set key (.arr records) := by
  rw [perform_put] at h
  split at h
  · cases h
    exact .inl rfl
  · rw [perform_flush] at h
    split at h
    · cases h
      exact .inr (flushed_entries _)
    · cases h
      exact .inr rfl

/-- What keeping track of a day does: nothing, or it writes the days of the old index with or
without that day. -/
theorem trackDay_cases {key : Scalar} {active : Bool} {r : Except Failure Unit}
    (h : (trackDay key active).perform s = (r, t)) :
    t = s ∨ ∃ days, (∀ x ∈ days, x.asScalar?.isSome = true) ∧
      (put indexKey days).perform s = (r, t) := by
  rw [trackDay, perform_bind, perform_recordsAt] at h
  rcases hindex : s.list indexKey with e | index
  · rw [hindex] at h
    cases h
    exact .inl rfl
  · simp only [hindex, perform_ite, perform_fail, perform_pure] at h
    split at h
    · cases h
      exact .inl rfl
    · rename_i hscalars
      have hscalars : ∀ x ∈ index, x.asScalar?.isSome = true := by
        simpa [Option.isSome_iff_ne_none] using hscalars
      split at h
      · cases h
        exact .inl rfl
      · rw [perform_bind, perform_ofExcept] at h
        rcases hsorted : sorted (if active then distinct index ++ [.scalar key]
          else (distinct index).filter (· != .scalar key)) with e | days
        · rw [hsorted] at h
          cases h
          exact .inl rfl
        · rw [hsorted] at h
          refine .inr ⟨days, ?_, h⟩
          intro x hx
          rw [sorted] at hsorted
          split at hsorted <;> cases hsorted
          have hmem := mem_of_sort? ‹_› hx
          cases active with
          | true =>
            rcases List.mem_append.1 hmem with hmem | hmem
            · exact hscalars x (mem_of_distinct hmem)
            · rw [List.mem_singleton.1 hmem]
              rfl
          | false => exact hscalars x (mem_of_distinct (List.mem_filter.1 hmem).1)

theorem Proper.put {key : Scalar} {records : List Json} {r : Except Failure Unit}
    (h : Proper s.entries) (hkey : key.isText = true) (hrecords : itemsAreProper records = true)
    (hput : (put key records).perform s = (r, t)) : Proper t.entries := by
  rcases entries_of_put hput with heq | heq
  · exact heq ▸ h
  · exact heq ▸ h.set hkey hrecords

theorem Proper.writeRecords {key : Scalar} {records : List Json} {r : Except Failure Unit}
    (h : Proper s.entries) (hkey : key.isText = true) (hrecords : itemsAreProper records = true)
    (hwrite : (writeRecords key records).perform s = (r, t)) : Proper t.entries := by
  rw [writeRecords_eq] at hwrite
  rcases hput : (Store.put key records).perform s with ⟨e | x, u⟩
  · rw [perform_bind_of_error hput] at hwrite
    cases hwrite
    exact h.put hkey hrecords hput
  · rw [perform_bind_of_ok hput, followUp, perform_ite, perform_ite, perform_fail,
      perform_pure] at hwrite
    have hu := h.put hkey hrecords hput
    -- what follows fails, writes an index of scalars, or does nothing
    split at hwrite
    · cases hwrite
      exact hu
    · split at hwrite
      · rcases trackDay_cases hwrite with rfl | ⟨days, hdays, hput'⟩
        · exact hu
        · refine hu.put rfl (itemsAreProper_iff.2 fun x hx ↦ ?_) hput'
          obtain ⟨k, hk⟩ := Option.isSome_iff_exists.1 (hdays x hx)
          cases x with
          | scalar k => rfl
          | arr | obj => exact absurd hk (by simp [asScalar?])
      · cases hwrite
        exact hu

/-! ### Operations on proper values -/

namespace Operation

/-- A change is made under a text and with proper JSON. -/
def IsProper : Operation → Prop
  | list _ | findFirst _ _ | days => True
  | append key record | replaceAt key _ record => key.isText = true ∧ record.isProper = true
  | removeAt key _ | removeWhere key _ => key.isText = true
  | replaceAll key value => key.isText = true ∧ value.isProper = true

theorem itemsAreProper_list (h : Proper s.entries) {key : Scalar} {records : List Json}
    (hlist : s.list key = .ok records) : itemsAreProper records = true := by
  rw [Store.list] at hlist
  split at hlist
  · cases hlist
    rfl
  · rename_i v hget
    have hv := isProper_of_get? h.isProper hget
    split at hlist
    · exact absurd hlist (by simp)
    · split at hlist <;> cases hlist
      · exact hv
      · rfl

theorem mem_of_partition? {p : Test} {records kept removed : List Json} {x : Json}
    (h : partition? p records = some (kept, removed)) (hx : x ∈ kept) : x ∈ records := by
  induction records generalizing kept removed with
  | nil =>
    cases h
    exact hx
  | cons r records ih =>
    rw [partition?] at h
    obtain ⟨passes, -, h⟩ := Option.bind_eq_some_iff.1 h
    obtain ⟨⟨kept', removed'⟩, hpartition, h⟩ := Option.bind_eq_some_iff.1 h
    cases passes with
    | true =>
      cases h
      exact List.mem_cons_of_mem _ (ih hpartition hx)
    | false =>
      cases h
      rcases List.mem_cons.1 hx with rfl | hx
      · exact List.mem_cons_self
      · exact List.mem_cons_of_mem _ (ih hpartition hx)

/-- **What is written is proper** if the mapping and the operation are. -/
theorem proper_of_plan {o : Operation} (ho : o.IsProper) (h : Proper s.entries) {answer : Answer}
    {key : Scalar} {records : List Json} (hplan : o.plan s = .ok (answer, some (key, records))) :
    key.isText = true ∧ itemsAreProper records = true := by
  -- every written record was there before or comes from the operation
  have hold {old : List Json} (hlist : s.list key = .ok old) : ∀ x ∈ old, x.isProper = true :=
    itemsAreProper_iff.1 (itemsAreProper_list h hlist)
  cases changes_of_plan hplan with
  | append hlist =>
    refine ⟨ho.1, itemsAreProper_iff.2 fun x hx ↦ ?_⟩
    rcases List.mem_append.1 hx with hx | hx
    · exact hold hlist x hx
    · exact List.mem_singleton.1 hx ▸ ho.2
  | replaceAt i hlist =>
    refine ⟨ho.1, itemsAreProper_iff.2 fun x hx ↦ ?_⟩
    rcases List.mem_or_eq_of_mem_set hx with hx | rfl
    · exact hold hlist x hx
    · exact ho.2
  | removeAt i hlist =>
    exact ⟨ho, itemsAreProper_iff.2 fun x hx ↦ hold hlist x (List.mem_of_mem_eraseIdx hx)⟩
  | removeWhere hlist hsplit =>
    exact ⟨ho, itemsAreProper_iff.2 fun x hx ↦ hold hlist x (mem_of_partition? hsplit hx)⟩
  | replaceAll hitems => exact ⟨ho.1, itemsAreProper_of_items? ho.2 hitems⟩

end Operation

/-! ### What is kept in a file -/

/-- The mapping is proper, and it is what is found if the store is opened again. -/
structure Persisted (s : Store) : Prop where
  proper : Proper s.entries
  onDisk : s.onDisk = .ok s.entries

theorem Persisted.of_inStep (hproper : Proper s.entries) (hstep : s.InStep)
    (hsave : s.canSave = true) : Persisted s := by
  refine ⟨hproper, ?_⟩
  rw [onDisk_of_inStep hstep hsave, rereadEntries_of_isProper hproper.isProper, ite_self]

theorem Persisted.perform {o : Operation} (h : Persisted s) (ho : o.IsProper)
    (hlands : o.Lands s) : Persisted (o.perform s).2 := by
  by_cases hwrites : o.Writes s
  · refine .of_inStep ?_ (Operation.inStep_perform hlands hwrites) (hlands hwrites)
    obtain ⟨answer, key, records, hplan, -⟩ := hwrites
    obtain ⟨hkey, hrecords⟩ := Operation.proper_of_plan ho h.proper hplan
    rw [Operation.perform_of_plan hplan]
    rcases hwrite : (writeRecords key records).perform s with ⟨r, t⟩
    exact h.proper.writeRecords hkey hrecords hwrite
  · obtain ⟨r, hfile, -⟩ := Operation.perform_of_not_writes hwrites
    rw [hfile]
    exact h

/-- **To open a store again changes nothing** but the backing, whose older texts are forgotten. -/
theorem Persisted.reopen (h : Persisted s) :
    ∃ t, s.reopen = .ok t ∧ t.entries = s.entries ∧ Persisted t ∧
      (t.backing = .memory ↔ s.backing = .memory) := by
  obtain ⟨t, ht, hentries, hdisk, hbacking⟩ := reopen_of_onDisk h.onDisk h.proper.hasIndex
  exact ⟨t, ht, hentries, ⟨hentries ▸ h.proper, hentries ▸ hdisk⟩, hbacking⟩

/-- A store that has been opened on the text of a proper mapping. -/
theorem persisted_of_withIndex (hproper : (Json.obj s.entries).isProper = true)
    (hdisk : s.onDisk = .ok s.entries) (h : withIndex s = .ok t) : Persisted t := by
  rcases withIndex_cases h with ⟨hindex, rfl⟩ | ⟨-, days, hdays, hsave, rfl⟩
  · exact ⟨⟨hproper, hindex⟩, hdisk⟩
  · refine .of_inStep ?_ (inStep_flushed _) ((canSave_flushed _).trans hsave)
    rw [flushed_entries]
    refine ⟨isProper_set hproper rfl (itemsAreProper_iff.2 fun x hx ↦ ?_), ?_⟩
    · obtain ⟨active, -, hsorted⟩ := bind_eq_ok hdays
      rw [sorted] at hsorted
      split at hsorted <;> cases hsorted
      obtain ⟨k, -, rfl⟩ := List.mem_map.1 (mem_of_sort? ‹_› hx)
      rfl
    · rw [assign, Fields.get?_set_self]
      rfl

/-! ### Runs -/

/-- Is the event an operation? -/
def Event.isOperation : Event → Bool
  | .operation _ => true
  | .reopen => false

/-- Along a run the store in memory that carries out the same operations has the same mapping. -/
theorem Persisted.after {s : Store} (h : Persisted s) {events : List Event}
    (hproper : ∀ o, .operation o ∈ events → o.IsProper) (hlands : s.Lands events) :
    Persisted (s.after events) ∧
      s.inMemory.after (events.filter Event.isOperation) = (s.after events).inMemory ∧
      ((s.after events).backing = .memory ↔ s.backing = .memory) := by
  induction events generalizing s with
  | nil => exact ⟨h, rfl, .rfl⟩
  | cons event events ih =>
    have hrest : ∀ o, .operation o ∈ events → o.IsProper :=
      fun o ho ↦ hproper o (List.mem_cons_of_mem _ ho)
    cases event with
    | operation o =>
      obtain ⟨hland, hlands⟩ := hlands
      have hstep := h.perform (hproper o List.mem_cons_self) hland
      obtain ⟨hafter, hmirror, hbacking⟩ := ih hstep hrest hlands
      refine ⟨hafter, ?_, hbacking.trans (Operation.perform_backing o s)⟩
      have hnext : s.inMemory.next (.operation o) = (o.perform s).2.inMemory := by
        rw [next, Operation.perform_inMemory hland]
      rw [List.filter_cons_of_pos rfl]
      show ((s.inMemory.next (.operation o)).after _) = _
      rw [hnext]
      exact hmirror
    | reopen =>
      -- the store in memory does nothing here, and opening the other one keeps its mapping
      obtain ⟨t, ht, hentries, hpersisted, hbacking⟩ := h.reopen
      have hnext : s.next .reopen = t := by rw [next, ht]
      rw [Lands, hnext] at hlands
      obtain ⟨hafter, hmirror, hbacking'⟩ := ih hpersisted hrest hlands
      have hmemory : t.inMemory = s.inMemory := by rw [inMemory, inMemory, hentries]
      have hrun : s.after (.reopen :: events) = t.after events := by
        show (s.next .reopen).after events = t.after events
        rw [hnext]
      rw [hrun, List.filter_cons_of_neg (by simp [Event.isOperation]), ← hmemory]
      exact ⟨hafter, hmirror, hbacking'.trans hbacking⟩

/-- **Persistence is transparent.** A store is opened on a file with the text of an object, and one
in memory on the same mapping. Whatever is asked of both, and however often the first is opened
again in between, both give the same answer or the same failure to every operation, their mappings
are the same, with the keys in the same order, to open the first again changes nothing, and after
every write its file holds the text of the mapping. -/
theorem file_run_eq_memory_run {text : String} {entries : Fields} {f : Store}
    (hread : Json.read text = .ok (.obj entries)) (hopen : ofText text = .ok f)
    (events : List Event) (hproper : ∀ o, .operation o ∈ events → o.IsProper)
    (hlands : f.Lands events) :
    (entries.get? indexKey = none → f.fileText? = some (textOf f.entries)) ∧
    ∃ m, ofEntries entries = .ok m ∧
      (f.after events).entries = (m.after (events.filter Event.isOperation)).entries ∧
      (∃ g, (f.after events).reopen = .ok g ∧ g.entries = (f.after events).entries) ∧
      ∀ o : Operation, o.Lands (f.after events) →
        (o.perform (f.after events)).1 =
          (o.perform (m.after (events.filter Event.isOperation))).1 ∧
        (o.Writes (f.after events) → (o.perform (f.after events)).2.fileText? =
          some (textOf (o.perform (f.after events)).2.entries)) := by
  have hentries : entriesOf text = .ok entries := by rw [entriesOf, hread]
  have hfile : withIndex { entries, backing := .file [text] } = .ok f := by
    rw [← hopen, ofText, hentries]
    rfl
  have hbacking : f.backing ≠ .memory := by
    rw [ne_eq, faithful_addIndex.backing (withIndex_eq_ok.1 hfile)]
    simp
  -- the invariant holds of the opened file, and the store in memory is its mirror image
  have hpersisted : Persisted f :=
    persisted_of_withIndex (s := { entries, backing := .file [text] }) (isProper_of_read hread)
      hentries hfile
  have hmemory : ofEntries entries = .ok f.inMemory :=
    withIndex_eq_ok.2 (faithful_addIndex.mirrored (withIndex_eq_ok.1 hfile) (.inl ⟨(), rfl⟩))
  obtain ⟨hafter, hmirror, hkind⟩ := hpersisted.after hproper hlands
  refine ⟨?_, f.inMemory, hmemory, ?_, ?_, ?_⟩
  · intro hnone
    rcases withIndex_cases hfile with ⟨hindex, -⟩ | ⟨-, days, -, -, rfl⟩
    · exact absurd hindex (by simp [hnone])
    · exact (inStep_flushed _).resolve_left hbacking
  · rw [hmirror]
    rfl
  · obtain ⟨g, hg, hsame, -⟩ := hafter.reopen
    exact ⟨g, hg, hsame⟩
  · intro o hland
    refine ⟨by rw [hmirror, Operation.perform_inMemory hland], ?_⟩
    intro hwrites
    refine (Operation.inStep_perform hland hwrites).resolve_left ?_
    rw [Operation.perform_backing, hkind]
    exact hbacking

/-- The file holds one list. An event is entered, the file is opened again, and a record removed. -/
theorem file_run_eq_memory_run_reopened :
    ∃ f m : Store, ofText "\x7b\"todo\": [\"tea\"]\x7d" = .ok f ∧
      ofEntries [("todo", .arr [.str "tea"])] = .ok m ∧
      (f.after [.operation (.append "cal-260105" (.str "dentist")), .reopen,
          .operation (.removeAt "todo" (.int 1))]).entries =
        (m.after [.operation (.append "cal-260105" (.str "dentist")),
          .operation (.removeAt "todo" (.int 1))]).entries := by
  have hread : Json.read "\x7b\"todo\": [\"tea\"]\x7d" =
      .ok (.obj [("todo", .arr [.str "tea"])]) := by decide +kernel
  have hopen : ofText "\x7b\"todo\": [\"tea\"]\x7d" =
      .ok ⟨[("todo", .arr [.str "tea"]), (indexKey, .arr [])],
        .file [textOf [("todo", .arr [.str "tea"]), (indexKey, .arr [])],
          "\x7b\"todo\": [\"tea\"]\x7d"]⟩ := by decide +kernel
  obtain ⟨-, m, hm, hsame, -⟩ := file_run_eq_memory_run hread hopen
    [.operation (.append "cal-260105" (.str "dentist")), .reopen,
      .operation (.removeAt "todo" (.int 1))]
    (fun o ho ↦ by
      simp only [List.mem_cons, Event.operation.injEq, reduceCtorEq, List.not_mem_nil, or_false,
        false_or] at ho
      rcases ho with rfl | rfl
      · exact ⟨rfl, rfl⟩
      · exact rfl)
    ⟨fun _ ↦ by decide +kernel, fun _ ↦ by decide +kernel, trivial⟩
  exact ⟨_, m, hopen, hm, hsame⟩

end Organizer.Store
