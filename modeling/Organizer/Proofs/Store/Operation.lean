import Organizer.Proofs.Action.Performing
import Organizer.Store.Records

/-!
# Operations and runs

What can be asked of a store, as data: an `Operation` is one question or one change, and an `Event`
is an operation or the store being opened again. A run is a list of events.

Every operation first looks and then writes at most one list of records: `plan` computes from the
store alone what the operation will answer and write, and `perform_eq` says that the operation
carries its plan out. What is written may bring a second write with it, that of the calendar index,
but this is the affair of `writeRecords`.

A write to a file succeeds if the mapping can be written. `Lands` says that the writes of a run
succeed; an operation that writes nothing makes no such demand.
-/

namespace Organizer.Store

open Organizer.Action

theorem perform_recordsAt (key : Scalar) (s : Store) :
    (recordsAt key).perform s = (s.list key, s) := by
  rw [recordsAt, perform_bind_of_ok (perform_get s), perform_ofExcept]

/-! ### Operations -/

/-- What can be asked of a store. -/
inductive Operation
  | list (key : Scalar)
  | findFirst (key : Scalar) (p : Test)
  | days
  | append (key : Scalar) (record : Json)
  | replaceAt (key : Scalar) (place record : Json)
  | removeAt (key : Scalar) (place : Json)
  | removeWhere (key : Scalar) (p : Test)
  | replaceAll (key : Scalar) (value : Json)

/-- What a store answers. -/
inductive Answer
  | done
  | record (r : Json)
  | records (rs : List Json)
  | place (i : Option Nat)
  deriving DecidableEq

namespace Operation

/-- The operation as an action on the store. -/
def action : Operation → Action Store Answer
  | list key => do return .records (← Action.ofExcept ((← get).list key))
  | findFirst key p => do return .place (← Action.ofExcept ((← get).findFirst key p))
  | days => do return .records (← Action.ofExcept (← get).days)
  | append key record => do
    Store.append key record
    return .done
  | replaceAt key place record => do
    Store.replaceAt key place record
    return .done
  | removeAt key place => do return .record (← Store.removeAt key place)
  | removeWhere key p => do return .records (← Store.removeWhere key p)
  | replaceAll key value => do
    replaceAllBy key value
    return .done

/-- What comes of the operation, and the store it leaves. -/
def perform (o : Operation) (s : Store) : Except Failure Answer × Store := o.action.perform s

/-- The key that the operation is about. -/
def key? : Operation → Option Scalar
  | list key | findFirst key _ | append key _ | replaceAt key _ _ | removeAt key _
  | removeWhere key _ | replaceAll key _ => some key
  | days => none

/-! ### Plans -/

/-- What the operation is going to answer, and the records that it is going to write under a key. -/
def plan (s : Store) : Operation → Except Failure (Answer × Option (Scalar × List Json))
  | list key => do .ok (.records (← s.list key), none)
  | findFirst key p => do .ok (.place (← s.findFirst key p), none)
  | days => do .ok (.records (← s.days), none)
  | append key record =>
    if isBlankRecord record then .error (.refused (.empty .record))
    else do .ok (.done, some (key, (← s.list key) ++ [record]))
  | replaceAt key place record =>
    if isBlankText record then .error (.refused (.empty .record))
    else do
      let records ← s.list key
      let i ← placeOf place records.length
      .ok (.done, some (key, records.set i record))
  | removeAt key place => do
    let records ← s.list key
    let i ← placeOf place records.length
    .ok (.record (records[i]?.getD .null), some (key, records.eraseIdx i))
  | removeWhere key p => do
    match partition? p (← s.list key) with
    | none => .error .unexpected
    | some (kept, removed) =>
      .ok (.records removed, if removed.isEmpty then none else some (key, kept))
  | replaceAll key value =>
    match value.items? with
    | none => .error .unexpected
    | some records => .ok (.done, some (key, records))

/-- Carries a plan out. -/
def carryOut : Answer × Option (Scalar × List Json) → Action Store Answer
  | (answer, none) => pure answer
  | (answer, some (key, records)) => do
    writeRecords key records
    return answer

/-- The records that each operation writes, and where they come from. -/
inductive Changes (s : Store) (key : Scalar) : Operation → List Json → Prop
  | append {record : Json} {old : List Json} (h : s.list key = .ok old) :
    Changes s key (.append key record) (old ++ [record])
  | replaceAt {place record : Json} {old : List Json} (i : Nat) (h : s.list key = .ok old) :
    Changes s key (.replaceAt key place record) (old.set i record)
  | removeAt {place : Json} {old : List Json} (i : Nat) (h : s.list key = .ok old) :
    Changes s key (.removeAt key place) (old.eraseIdx i)
  | removeWhere {p : Test} {old kept removed : List Json} (h : s.list key = .ok old)
    (hsplit : partition? p old = some (kept, removed)) : Changes s key (.removeWhere key p) kept
  | replaceAll {value : Json} {records : List Json} (h : value.items? = some records) :
    Changes s key (.replaceAll key value) records

theorem changes_of_plan {o : Operation} {s : Store} {answer : Answer} {key : Scalar}
    {records : List Json} (h : o.plan s = .ok (answer, some (key, records))) :
    Changes s key o records := by
  cases o with
  | list key' | days | findFirst key' p =>
    obtain ⟨x, -, h⟩ := bind_eq_ok h
    cases h
  | append key' record =>
    rw [plan] at h
    split at h
    · cases h
    · obtain ⟨old, hlist, h⟩ := bind_eq_ok h
      cases h
      exact .append hlist
  | replaceAt key' place record =>
    rw [plan] at h
    split at h
    · cases h
    · obtain ⟨old, hlist, h⟩ := bind_eq_ok h
      obtain ⟨i, -, h⟩ := bind_eq_ok h
      cases h
      exact .replaceAt i hlist
  | removeAt key' place =>
    obtain ⟨old, hlist, h⟩ := bind_eq_ok h
    obtain ⟨i, -, h⟩ := bind_eq_ok h
    cases h
    exact .removeAt i hlist
  | removeWhere key' p =>
    obtain ⟨old, hlist, h⟩ := bind_eq_ok h
    split at h
    · cases h
    · rename_i kept removed hsplit
      obtain ⟨-, hsome⟩ := Prod.mk.inj (Except.ok.inj h)
      split at hsome <;> cases hsome
      exact .removeWhere hlist hsplit
  | replaceAll key' value =>
    rw [plan] at h
    split at h <;> cases h
    exact .replaceAll ‹_›

/-- What is written is written under the key that the operation is about. -/
theorem key?_of_plan {o : Operation} {s : Store} {answer : Answer} {key : Scalar}
    {records : List Json} (h : o.plan s = .ok (answer, some (key, records))) :
    o.key? = some key := by
  cases changes_of_plan h <;> rfl

/-- **An operation carries its plan out**, or fails where there is none. -/
theorem perform_eq (o : Operation) (s : Store) :
    o.perform s = (Action.ofExcept (o.plan s) >>= carryOut).perform s := by
  rw [perform_bind, perform_ofExcept]
  -- both sides look at the store in the same order, and fail at the same point of it
  cases o with
  | list key =>
    simp only [perform, action, plan, perform_bind, perform_get, perform_ofExcept]
    cases s.list key <;> rfl
  | findFirst key p =>
    simp only [perform, action, plan, perform_bind, perform_get, perform_ofExcept]
    cases s.findFirst key p <;> rfl
  | days =>
    simp only [perform, action, plan, perform_bind, perform_get, perform_ofExcept]
    cases s.days <;> rfl
  | append key record =>
    simp only [perform, action, plan, Store.append]
    by_cases h : isBlankRecord record
    · simp only [h, if_true, perform_bind, perform_refuse]
    · simp only [h, Bool.false_eq_true, if_false, perform_bind, perform_recordsAt]
      cases s.list key with
      | error e => rfl
      | ok records => exact (perform_bind ..).symm
  | replaceAt key place record =>
    simp only [perform, action, plan, Store.replaceAt]
    by_cases h : isBlankText record
    · simp only [h, if_true, perform_bind, perform_refuse]
    · simp only [h, Bool.false_eq_true, if_false, perform_bind, perform_recordsAt]
      cases s.list key with
      | error e => rfl
      | ok records =>
        simp only [perform_ofExcept, ok_bind]
        cases placeOf place records.length with
        | error e => rfl
        | ok i => exact (perform_bind ..).symm
  | removeAt key place =>
    simp only [perform, action, plan, Store.removeAt, perform_bind, perform_recordsAt]
    cases s.list key with
    | error e => rfl
    | ok records =>
      simp only [perform_ofExcept, ok_bind]
      cases placeOf place records.length with
      | error e => rfl
      | ok i =>
        simp only [ok_bind, carryOut, perform_bind]
        rcases (writeRecords key (records.eraseIdx i)).perform s with ⟨_ | _, t⟩ <;> rfl
  | removeWhere key p =>
    simp only [perform, action, plan, Store.removeWhere, perform_bind, perform_recordsAt]
    cases s.list key with
    | error e => rfl
    | ok records =>
      simp only [ok_bind]
      cases partition? p records with
      | none => rfl
      | some found =>
        obtain ⟨kept, removed⟩ := found
        cases h : removed.isEmpty with
        | true => simp only [perform_require_some, h]; rfl
        | false =>
          simp only [perform_require_some, h, carryOut, perform_bind, Bool.not_false, if_true,
            Bool.false_eq_true, if_false]
          rcases (writeRecords key kept).perform s with ⟨_ | _, t⟩ <;> rfl
  | replaceAll key value =>
    simp only [perform, action, plan, Store.replaceAllBy, Store.replaceAll, perform_bind]
    cases value.items? with
    | none => rfl
    | some records => exact (perform_bind ..).symm

end Operation

/-! ### Runs -/

/-- Can the mapping be written out to where it is kept? -/
def canSave (s : Store) : Bool :=
  match s.backing with
  | .memory => true
  | .file _ => (Json.obj s.entries).isWritable

/-- The operation is going to write. What has too many levels is not even tried. -/
def Operation.Writes (o : Operation) (s : Store) : Prop :=
  ∃ answer key records, o.plan s = .ok (answer, some (key, records)) ∧
    (Json.arr records).depth ≤ maxKept

/-- The writes of the operation succeed, if there are any. -/
def Operation.Lands (o : Operation) (s : Store) : Prop := o.Writes s → (o.perform s).2.canSave

/-- What can happen to a store. -/
inductive Event
  | operation (o : Operation)
  | reopen

/-- The store after an event. A store that cannot be opened again is left as it is. -/
def next (s : Store) : Event → Store
  | .operation o => (o.perform s).2
  | .reopen =>
    match s.reopen with
    | .ok t => t
    | .error _ => s

/-- The store after a run. -/
def after (s : Store) (events : List Event) : Store := events.foldl next s

/-- All writes of a run succeed. -/
def Lands (s : Store) : List Event → Prop
  | [] => True
  | .operation o :: events => o.Lands s ∧ (s.next (.operation o)).Lands events
  | .reopen :: events => (s.next .reopen).Lands events

end Organizer.Store
