import Organizer.Proofs.Action.Refusing
import Organizer.Proofs.Json.RoundTrip
import Organizer.Proofs.Store.Operation

/-!
# Stores in files and in memory

What a store answers depends on its mapping alone, and so does the mapping that a change leads to:
where the store is kept shows only in a write that fails. `Faithful` says so of an action. If there
is no trace of a failed write, the action does in memory what it does in a file (`mirrored`), and
the file's text follows the mapping (`inStep`).

`onDisk` is the mapping that a store is opened on if it is opened again. After a write it is what
the reader makes of the mapping's text (`onDisk_of_inStep`), and opening a store on a mapping that
has a calendar index changes nothing (`reopen_of_onDisk`).
-/

namespace Organizer.Store

open Organizer.Action

variable {α β : Type} {s t : Store}

/-- The same mapping, kept in memory. -/
def inMemory (s : Store) : Store := { s with backing := .memory }

/-- Holds the file the text of the mapping? In memory there is nothing to hold. -/
def InStep (s : Store) : Prop := s.backing = .memory ∨ s.fileText? = some (textOf s.entries)

/-- There is no trace of a failed write: the action has answered, or the store could be written. -/
def Saved (r : Except Failure α) (t : Store) : Prop := (∃ x, r = .ok x) ∨ t.canSave = true

/-- The action does in a file what it does in memory, and keeps the file in step. -/
structure Faithful (a : Action Store α) : Prop where
  mirrored : ∀ {s t r}, a.perform s = (r, t) → Saved r t →
    a.perform s.inMemory = (r, t.inMemory)
  inStep : ∀ {s t r}, a.perform s = (r, t) → Saved r t → s.InStep → t.InStep
  backing : ∀ {s t r}, a.perform s = (r, t) → (t.backing = .memory ↔ s.backing = .memory)

namespace Faithful

/-- What only looks at the mapping. -/
theorem of_readOnly {a : Action Store α} (ha : ReadOnly a)
    (hmemory : ∀ s : Store, (a.perform s.inMemory).1 = (a.perform s).1) : Faithful a where
  mirrored {s t r} h _ := by
    have ht : t = s := ha.perform_snd h
    refine Prod.ext ?_ ?_
    · rw [hmemory, h]
    · rw [ha, ht]
  inStep h _ hs := ha.perform_snd h ▸ hs
  backing h := by rw [ha.perform_snd h]

theorem pure (x : α) : Faithful (pure x : Action Store α) := of_readOnly (.pure x) fun _ ↦ rfl

theorem fail : Faithful (fail : Action Store α) := of_readOnly (fun _ ↦ rfl) fun _ ↦ rfl

theorem ofExcept (r : Except Failure α) : Faithful (Action.ofExcept r : Action Store α) :=
  of_readOnly (.ofExcept r) fun s ↦ by rw [perform_ofExcept, perform_ofExcept]

/-- What looks at the mapping first. -/
theorem get_bind {f : Store → Action Store α} (hf : ∀ s, Faithful (f s))
    (hmemory : ∀ s : Store, f s.inMemory = f s) : Faithful (get >>= f) where
  mirrored {s t r} h hsaved := by
    rw [perform_bind_of_ok (perform_get _)] at h ⊢
    rw [hmemory]
    exact (hf s).mirrored h hsaved
  inStep {s t r} h hsaved hs := by
    rw [perform_bind_of_ok (perform_get _)] at h
    exact (hf s).inStep h hsaved hs
  backing {s t r} h := by
    rw [perform_bind_of_ok (perform_get _)] at h
    exact (hf s).backing h

theorem recordsAt (key : Scalar) : Faithful (recordsAt key) :=
  get_bind (fun _ ↦ .ofExcept _) fun _ ↦ rfl

theorem bind {a : Action Store α} {f : α → Action Store β} (ha : Faithful a)
    (hf : ∀ x, Faithful (f x)) : Faithful (a >>= f) where
  mirrored {s t r} h hsaved := by
    -- if the first step has failed, its failure is that of the whole, and so is its trace
    rcases hstep : a.perform s with ⟨e | x, u⟩
    · rw [perform_bind_of_error hstep] at h
      cases h
      refine perform_bind_of_error (ha.mirrored hstep ?_)
      exact hsaved.imp (fun ⟨_, hx⟩ ↦ absurd hx (by simp)) id
    · rw [perform_bind_of_ok hstep] at h
      rw [perform_bind_of_ok (ha.mirrored hstep (.inl ⟨x, rfl⟩))]
      exact (hf x).mirrored h hsaved
  inStep {s t r} h hsaved hs := by
    rcases hstep : a.perform s with ⟨e | x, u⟩
    · rw [perform_bind_of_error hstep] at h
      cases h
      refine ha.inStep hstep ?_ hs
      exact hsaved.imp (fun ⟨_, hx⟩ ↦ absurd hx (by simp)) id
    · rw [perform_bind_of_ok hstep] at h
      exact (hf x).inStep h hsaved (ha.inStep hstep (.inl ⟨x, rfl⟩) hs)
  backing {s t r} h := by
    rcases hstep : a.perform s with ⟨e | x, u⟩
    · rw [perform_bind_of_error hstep] at h
      cases h
      exact ha.backing hstep
    · rw [perform_bind_of_ok hstep] at h
      exact ((hf x).backing h).trans (ha.backing hstep)

theorem ite (c : Prop) [Decidable c] {a b : Action Store α} (ha : Faithful a) (hb : Faithful b) :
    Faithful (if c then a else b) := by
  split <;> assumption

end Faithful

/-! ### Writing -/

/-- The store with the records under the key, before they are written out. -/
def assign (s : Store) (key : Scalar) (records : List Json) : Store :=
  { s with entries := s.entries.set key (.arr records) }

/-- The store once its mapping is written out. -/
def flushed (s : Store) : Store :=
  match s.backing with
  | .memory => s
  | .file versions => { s with backing := .file (textOf s.entries :: versions) }

theorem perform_flush (s : Store) :
    flush.perform s = if s.canSave then (.ok (), s.flushed) else (.error .unexpected, s) := by
  rw [flush, perform_bind_of_ok (perform_get s), canSave, flushed]
  cases s.backing with
  | memory => rfl
  | file versions =>
    simp only [perform_ite, perform_set, perform_fail]

theorem perform_put (key : Scalar) (records : List Json) (s : Store) :
    (put key records).perform s =
      if maxKept < (Json.arr records).depth then (.error .unexpected, s)
      else flush.perform (s.assign key records) := by
  rw [put, perform_ite, perform_fail, perform_bind_of_ok (perform_modify ..)]
  rfl

/-- What has been put under a key is written out. -/
theorem perform_put_eq_ok {key : Scalar} {records : List Json} :
    (put key records).perform s = (.ok (), t) ↔ (Json.arr records).depth ≤ maxKept ∧
      (s.assign key records).canSave = true ∧ t = (s.assign key records).flushed := by
  rw [perform_put]
  split
  · rename_i hdeep
    simp [Nat.not_le.2 hdeep]
  · rename_i hdepth
    rw [perform_flush]
    split
    · simp [Nat.not_lt.1 hdepth, *, eq_comm]
    · simp [*]

theorem inMemory_flushed (s : Store) : s.flushed.inMemory = s.inMemory := by
  rw [flushed]
  split <;> rfl

theorem inStep_flushed (s : Store) : s.flushed.InStep := by
  rw [flushed]
  split
  · exact .inl ‹_›
  · exact .inr rfl

theorem flushed_backing (s : Store) : s.flushed.backing = .memory ↔ s.backing = .memory := by
  rw [flushed]
  split
  · exact .rfl
  · rename_i versions h
    simp [h]

theorem flushed_entries (s : Store) : s.flushed.entries = s.entries := by
  rw [flushed]
  split <;> rfl

theorem canSave_flushed (s : Store) : s.flushed.canSave = s.canSave := by
  rw [flushed]
  split
  · rfl
  · rename_i versions h
    simp only [canSave, h]

/-- A write that leaves no trace of failure has been carried out. -/
theorem flush_of_saved {r : Except Failure Unit} (h : flush.perform s = (r, t))
    (hsaved : Saved r t) : r = .ok () ∧ t = s.flushed := by
  rw [perform_flush] at h
  by_cases hsave : s.canSave
  · rw [if_pos hsave] at h
    cases h
    exact ⟨rfl, rfl⟩
  · rw [if_neg hsave] at h
    cases h
    rcases hsaved with ⟨_, hx⟩ | hsaved
    · exact absurd hx (by simp)
    · exact absurd hsaved hsave

theorem faithful_flush : Faithful flush where
  mirrored {s t r} h hsaved := by
    obtain ⟨rfl, rfl⟩ := flush_of_saved h hsaved
    rw [perform_flush, inMemory_flushed]
    rfl
  inStep {s t r} h hsaved _ := by
    obtain ⟨rfl, rfl⟩ := flush_of_saved h hsaved
    exact inStep_flushed s
  backing {s t r} h := by
    rw [perform_flush] at h
    split at h <;> cases h
    · exact flushed_backing s
    · exact .rfl

theorem faithful_put (key : Scalar) (records : List Json) : Faithful (put key records) where
  mirrored {s t r} h hsaved := by
    rw [perform_put] at h ⊢
    split at h
    · rw [if_pos ‹_›]
      cases h
      rfl
    · rw [if_neg ‹_›]
      exact faithful_flush.mirrored h hsaved
  inStep {s t r} h hsaved hs := by
    rw [perform_put] at h
    split at h
    · cases h
      exact hs
    · obtain ⟨-, rfl⟩ := flush_of_saved h hsaved
      exact inStep_flushed _
  backing {s t r} h := by
    rw [perform_put] at h
    split at h
    · cases h
      exact .rfl
    · show t.backing = .memory ↔ (s.assign key records).backing = .memory
      exact faithful_flush.backing h

theorem faithful_trackDay (key : Scalar) (active : Bool) : Faithful (trackDay key active) :=
  .bind (.recordsAt indexKey) fun _ ↦
    .ite _ .fail (.ite _ (.pure _) (.bind (.ofExcept _) fun _ ↦ faithful_put _ _))

/-- What follows the first write of a change: a day of the calendar is kept track of. -/
def followUp (key : Scalar) (records : List Json) : Action Store Unit :=
  if !key.isText then Action.fail
  else if isDayKey key then trackDay key (!records.isEmpty) else pure ()

theorem writeRecords_eq (key : Scalar) (records : List Json) :
    writeRecords key records = put key records >>= fun _ ↦ followUp key records := rfl

/-- Under a key that is no day there is nothing to keep track of. -/
theorem perform_writeRecords_of_not_day {key : Scalar} {records : List Json}
    (hkey : key.isText = true) (hday : isDayKey key = false)
    (hdepth : (Json.arr records).depth ≤ maxKept) :
    (writeRecords key records).perform s = flush.perform (s.assign key records) := by
  have hput : (put key records).perform s = flush.perform (s.assign key records) := by
    rw [perform_put, if_neg (Nat.not_lt.2 hdepth)]
  have hlast : followUp key records = pure () := by
    rw [followUp, hkey, hday]
    rfl
  rw [writeRecords_eq, hlast, perform_bind, hput]
  rcases flush.perform _ with ⟨_ | _, _⟩ <;> rfl

theorem faithful_followUp (key : Scalar) (records : List Json) : Faithful (followUp key records) :=
  .ite _ .fail (.ite _ (faithful_trackDay _ _) (.pure _))

theorem faithful_writeRecords (key : Scalar) (records : List Json) :
    Faithful (writeRecords key records) :=
  .bind (faithful_put key records) fun _ ↦ faithful_followUp key records

/-- After a change that is not too deep the file is in step, whatever it held before. -/
theorem inStep_writeRecords {key : Scalar} {records : List Json} {r : Except Failure Unit}
    (h : (writeRecords key records).perform s = (r, t)) (hsaved : Saved r t)
    (hdepth : (Json.arr records).depth ≤ maxKept) : t.InStep := by
  have hput : (put key records).perform s = flush.perform (s.assign key records) := by
    rw [perform_put, if_neg (Nat.not_lt.2 hdepth)]
  rw [writeRecords_eq] at h
  -- the first write brings the file in step, and the second finds it so
  rcases hfirst : (put key records).perform s with ⟨e | x, u⟩
  · rw [perform_bind_of_error hfirst] at h
    cases h
    rw [hput] at hfirst
    have hsaved' : Saved (.error e : Except Failure Unit) t := hsaved
    obtain ⟨hok, -⟩ := flush_of_saved hfirst hsaved'
    exact absurd hok (by simp)
  · rw [perform_bind_of_ok hfirst] at h
    rw [hput] at hfirst
    obtain ⟨-, rfl⟩ := flush_of_saved hfirst (.inl ⟨x, rfl⟩)
    exact (faithful_followUp key records).inStep h hsaved (inStep_flushed _)

/-! ### Operations -/

namespace Operation

theorem plan_inMemory (o : Operation) (s : Store) : o.plan s.inMemory = o.plan s := by
  cases o <;> rfl

/-- An operation that writes nothing answers the same in memory. -/
theorem perform_of_not_writes {o : Operation} (h : ¬o.Writes s) :
    ∃ r, o.perform s = (r, s) ∧ o.perform s.inMemory = (r, s.inMemory) := by
  simp only [perform_eq, perform_bind, perform_ofExcept, plan_inMemory]
  -- there is no plan, or nothing to write, or what is to be written is too deep
  rcases hplan : o.plan s with e | ⟨answer, _ | ⟨key, records⟩⟩
  · exact ⟨.error e, rfl, rfl⟩
  · exact ⟨.ok answer, rfl, rfl⟩
  · have hdepth : maxKept < (Json.arr records).depth :=
      Nat.lt_of_not_le fun hle ↦ h ⟨answer, key, records, hplan, hle⟩
    have hwrite (u : Store) : (carryOut (answer, some (key, records))).perform u =
        (.error .unexpected, u) := by
      have hput : (put key records).perform u = (.error .unexpected, u) := by
        rw [perform_put, if_pos hdepth]
      exact perform_bind_of_error (perform_bind_of_error hput)
    exact ⟨.error .unexpected, hwrite s, hwrite s.inMemory⟩

/-- An operation with something to write writes it. -/
theorem perform_of_plan {o : Operation} {answer : Answer} {key : Scalar} {records : List Json}
    (h : o.plan s = .ok (answer, some (key, records))) :
    o.perform s = (((writeRecords key records).perform s).1.map fun _ ↦ answer,
      ((writeRecords key records).perform s).2) := by
  rw [perform_eq, perform_bind_of_ok ((perform_ofExcept _ s).trans (congrArg (·, s) h))]
  show (writeRecords key records >>= fun _ ↦ pure answer).perform s = _
  rw [← map_eq_pure_bind, perform_map]

/-- **An operation does in a file what it does in memory**, if its writes succeed. -/
theorem perform_inMemory {o : Operation} (hlands : o.Lands s) :
    o.perform s.inMemory = ((o.perform s).1, (o.perform s).2.inMemory) := by
  by_cases hwrites : o.Writes s
  · obtain ⟨answer, key, records, hplan, -⟩ := id hwrites
    -- both carry out one plan, since a plan does not ask where the mapping is kept
    have hsave := hlands hwrites
    rw [perform_of_plan ((plan_inMemory o s).trans hplan)]
    rw [perform_of_plan hplan] at hsave ⊢
    rcases hwrite : (writeRecords key records).perform s with ⟨r, t⟩
    rw [hwrite] at hsave
    rw [(faithful_writeRecords key records).mirrored hwrite (.inr hsave)]
  · obtain ⟨r, hfile, hmemory⟩ := perform_of_not_writes hwrites
    rw [hfile, hmemory]

/-- After a successful write the file holds the text of the mapping. -/
theorem inStep_perform {o : Operation} (hlands : o.Lands s) (hwrites : o.Writes s) :
    (o.perform s).2.InStep := by
  obtain ⟨answer, key, records, hplan, hdepth⟩ := id hwrites
  have hsave := hlands hwrites
  rw [perform_of_plan hplan] at hsave ⊢
  rcases hwrite : (writeRecords key records).perform s with ⟨r, t⟩
  rw [hwrite] at hsave
  exact inStep_writeRecords hwrite (.inr hsave) hdepth

theorem perform_backing (o : Operation) (s : Store) :
    (o.perform s).2.backing = .memory ↔ s.backing = .memory := by
  by_cases hwrites : o.Writes s
  · obtain ⟨answer, key, records, hplan, -⟩ := hwrites
    rw [perform_of_plan hplan]
    rcases hwrite : (writeRecords key records).perform s with ⟨r, t⟩
    exact (faithful_writeRecords key records).backing hwrite
  · obtain ⟨r, hfile, -⟩ := perform_of_not_writes hwrites
    rw [hfile]

end Operation

/-! ### Opening -/

theorem faithful_addIndex : Faithful addIndex :=
  .get_bind (fun _ ↦ .ite _ (.pure _) (.bind (.ofExcept _) fun _ ↦ faithful_put _ _)) fun _ ↦ rfl

theorem withIndex_eq_ok : withIndex s = .ok t ↔ addIndex.perform s = (.ok (), t) := by
  rw [withIndex]
  rcases addIndex.perform s with ⟨e | x, u⟩
  · simp
  · simp

theorem withIndex_of_isSome (h : (s.entries.get? indexKey).isSome) : withIndex s = .ok s := by
  rw [withIndex_eq_ok, addIndex, perform_bind_of_ok (perform_get s), if_pos h]
  rfl

/-- What opening a store has done: nothing, or it has written the index of the active days. -/
theorem withIndex_cases (h : withIndex s = .ok t) :
    (s.entries.get? indexKey).isSome = true ∧ t = s ∨
      s.entries.get? indexKey = none ∧ ∃ days, s.activeDays = .ok days ∧
        (s.assign indexKey days).canSave = true ∧ t = (s.assign indexKey days).flushed := by
  by_cases hindex : (s.entries.get? indexKey).isSome
  · rw [withIndex_of_isSome hindex] at h
    exact .inl ⟨hindex, (Except.ok.inj h).symm⟩
  · refine .inr ⟨Option.not_isSome_iff_eq_none.1 hindex, ?_⟩
    rw [withIndex_eq_ok, addIndex, perform_bind_of_ok (perform_get s), if_neg hindex] at h
    obtain ⟨days, u, hdays, hput⟩ := perform_bind_eq_ok.1 h
    rw [perform_ofExcept, Prod.mk.injEq] at hdays
    obtain ⟨hdays, rfl⟩ := hdays
    obtain ⟨-, hsave, rfl⟩ := perform_put_eq_ok.1 hput
    exact ⟨days, hdays, hsave, rfl⟩

/-! ### Opening again -/

/-- The mapping that is found if the store is opened again. -/
def onDisk (s : Store) : Except Failure Fields :=
  match s.backing with
  | .memory => .ok s.entries
  | .file [] => .ok []
  | .file (text :: _) => entriesOf text

/-- The mapping that a text of a mapping holds. -/
def rereadEntries (entries : Fields) : Fields := Fields.ofList (Json.rereadFields entries)

theorem entriesOf_textOf {entries : Fields} (h : (Json.obj entries).isWritable) :
    entriesOf (textOf entries) = .ok (rereadEntries entries) := by
  rw [entriesOf, textOf, Json.read_write h]
  rfl

theorem rereadEntries_of_isProper {entries : Fields} (h : (Json.obj entries).isProper = true) :
    rereadEntries entries = entries :=
  Json.obj.inj (Json.reread_of_isProper h)

/-- What is found after a write. -/
theorem onDisk_of_inStep (hstep : s.InStep) (hsave : s.canSave = true) :
    s.onDisk = .ok (if s.backing = .memory then s.entries else rereadEntries s.entries) := by
  rw [onDisk]
  -- in memory, in a file without a text, which is in step with nothing, and in one with a text
  rcases hbacking : s.backing with _ | ⟨_ | ⟨text, versions⟩⟩
  · rfl
  · rcases hstep with hmemory | htext
    · exact absurd (hbacking.symm.trans hmemory) (by simp)
    · rw [fileText?, hbacking] at htext
      exact absurd htext (by simp)
  · rcases hstep with hmemory | htext
    · exact absurd (hbacking.symm.trans hmemory) (by simp)
    · rw [fileText?, hbacking] at htext
      rw [canSave, hbacking] at hsave
      rw [if_neg (by simp), Option.some.inj htext]
      exact entriesOf_textOf hsave

/-- **Opening a store on a mapping that has a calendar index changes nothing.** -/
theorem reopen_of_onDisk {entries : Fields} (hdisk : s.onDisk = .ok entries)
    (hindex : (entries.get? indexKey).isSome) :
    ∃ t, s.reopen = .ok t ∧ t.entries = entries ∧ t.onDisk = .ok entries ∧
      (t.backing = .memory ↔ s.backing = .memory) := by
  rw [onDisk] at hdisk
  rw [reopen]
  -- a file without a text would be read as the empty mapping, which has no index
  rcases hbacking : s.backing with _ | ⟨_ | ⟨text, versions⟩⟩
  · rw [hbacking] at hdisk
    cases hdisk
    exact ⟨_, withIndex_of_isSome hindex, rfl, rfl, by simp⟩
  · rw [hbacking] at hdisk
    cases hdisk
    exact absurd hindex (by simp)
  · rw [hbacking] at hdisk
    refine ⟨{ entries, backing := .file [text] }, ?_, rfl, hdisk, by simp⟩
    simp only [ofText, hdisk, ok_bind]
    exact withIndex_of_isSome hindex

end Organizer.Store
