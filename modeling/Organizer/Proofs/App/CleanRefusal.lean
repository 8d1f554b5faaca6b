import Organizer.App
import Organizer.Proofs.Action.Refusing

/-!
# Refused commands leave no trace

A refusal is reported to a person, who may rely on nothing having happened. The type of actions does
not promise this: an action may write and be refused afterwards. So it is shown of every command,
from the store upwards.

* A write to the store is never refused (`neverRefuses_writeRecords`), and all that comes before it
  only looks. Hence every operation on records is refused cleanly.
* A command on the desk adds searches and files, a command on the scheduler adds times and
  durations; in each the last possible refusal comes before the first change. The one command that
  is refused after an operation that may write is the deletion of contacts, and it is refused only
  if nothing was found and hence nothing was written (`removeWhere_of_isEmpty`).

The outcome is `refusesCleanly_carryOut` for requests and `refusesCleanly_resume` for the second
half of editing a note.
-/

namespace Organizer

open Organizer.Action

/-! ### The store -/

namespace Store

theorem unrefused_list (s : Store) (key : Scalar) : Unrefused (s.list key) := by
  rw [list]
  split
  · exact .ok _
  · split
    · exact .unexpected
    · split <;> exact .ok _

theorem unrefused_sorted (xs : List Json) : Unrefused (sorted xs) := by
  rw [sorted]
  split
  · exact .ok _
  · exact .unexpected

theorem neverRefuses_recordsAt (key : Scalar) : NeverRefuses (recordsAt key) :=
  .bind .get fun s ↦ .ofExcept (s.unrefused_list key)

theorem readOnly_recordsAt (key : Scalar) : ReadOnly (recordsAt key) :=
  .bind .get fun _ ↦ .ofExcept _

theorem neverRefuses_flush : NeverRefuses flush := by
  refine .bind .get fun s ↦ ?_
  split
  · exact .pure _
  · exact .ite _ (.set _) .fail

theorem neverRefuses_put (key : Scalar) (records : List Json) : NeverRefuses (put key records) :=
  .ite _ .fail (.bind (.modify _) fun _ ↦ neverRefuses_flush)

theorem neverRefuses_trackDay (key : Scalar) (active : Bool) :
    NeverRefuses (trackDay key active) :=
  .bind (neverRefuses_recordsAt indexKey) fun _ ↦
    .ite _ .fail (.ite _ (.pure _)
      (.bind (.ofExcept (unrefused_sorted _)) fun _ ↦ neverRefuses_put _ _))

/-- A write is never refused, whatever the calendar index holds. -/
theorem neverRefuses_writeRecords (key : Scalar) (records : List Json) :
    NeverRefuses (writeRecords key records) :=
  .bind (neverRefuses_put key records) fun _ ↦
    .ite _ .fail (.ite _ (neverRefuses_trackDay _ _) (.pure _))

theorem refusesCleanly_append (key : Scalar) (record : Json) :
    RefusesCleanly (append key record) :=
  .ite _ (ReadOnly.refuse _).refusesCleanly
    (.bind_of_readOnly (readOnly_recordsAt key) fun _ ↦
      (neverRefuses_writeRecords _ _).refusesCleanly)

theorem refusesCleanly_replaceAt (key : Scalar) (place record : Json) :
    RefusesCleanly (replaceAt key place record) :=
  .ite _ (ReadOnly.refuse _).refusesCleanly
    (.bind_of_readOnly (readOnly_recordsAt key) fun _ ↦
      .bind_of_readOnly (.ofExcept _) fun _ ↦ (neverRefuses_writeRecords _ _).refusesCleanly)

theorem refusesCleanly_removeAt (key : Scalar) (place : Json) :
    RefusesCleanly (removeAt key place) :=
  .bind_of_readOnly (readOnly_recordsAt key) fun _ ↦
    .bind_of_readOnly (.ofExcept _) fun _ ↦
      (NeverRefuses.bind (neverRefuses_writeRecords _ _) fun _ ↦ .pure _).refusesCleanly

theorem neverRefuses_removeWhere (key : Scalar) (p : Test) :
    NeverRefuses (removeWhere key p) := by
  refine .bind (neverRefuses_recordsAt key) fun records ↦ .bind (.require _) ?_
  rintro ⟨kept, removed⟩
  exact .ite _ (.bind (neverRefuses_writeRecords key kept) fun _ ↦ .pure _) (.pure _)

/-- What removes nothing writes nothing. -/
theorem removeWhere_of_isEmpty {key : Scalar} {p : Test} {s t : Store} {removed : List Json}
    (h : (removeWhere key p).perform s = (.ok removed, t)) (hempty : removed.isEmpty) : t = s := by
  obtain ⟨records, u, hrecords, h⟩ := perform_bind_eq_ok.1 h
  have hu : u = s := (readOnly_recordsAt key).perform_snd hrecords
  obtain ⟨⟨kept, found⟩, v, hsplit, h⟩ := perform_bind_eq_ok.1 h
  have hv : v = u := (ReadOnly.require _).perform_snd hsplit
  by_cases hfound : found.isEmpty
  · simp only [hfound, Bool.not_true, Bool.false_eq_true, if_false, perform_pure,
      Prod.mk.injEq] at h
    rw [← h.2, hv, hu]
  · simp only [hfound, Bool.not_false, if_true] at h
    obtain ⟨-, w, -, h⟩ := perform_bind_eq_ok.1 h
    rw [perform_pure, Prod.mk.injEq, Except.ok.injEq] at h
    exact absurd (h.1 ▸ hempty) hfound

end Store

/-! ### The desk -/

namespace Desk

theorem refusesCleanly_onStore {α : Type} {a : Action Store α} (h : RefusesCleanly a) :
    RefusesCleanly (onStore a) :=
  .within (fun _ ↦ rfl) h

theorem neverRefuses_onStore {α : Type} {a : Action Store α} (h : NeverRefuses a) :
    NeverRefuses (onStore a) :=
  .within h

theorem readOnly_recordsAt (key : Scalar) : ReadOnly (recordsAt key) :=
  .bind .get fun _ ↦ .ofExcept _

end Desk

namespace FileTree

theorem neverRefuses_makeDirectories (place : Place) (parts : List String) :
    NeverRefuses (makeDirectories place parts) := by
  induction parts generalizing place with
  | nil => exact .pure place
  | cons part parts ih =>
    refine .ite _ .fail (.bind .get fun t ↦ ?_)
    split
    · exact ih _
    · exact .fail
    · exact .bind (.modify _) fun _ ↦ ih _

theorem neverRefuses_makeParent (path : Path) : NeverRefuses (makeParent path) :=
  .ite _ .fail (neverRefuses_makeDirectories _ _)

/-- A file that cannot be written is no refusal. -/
theorem neverRefuses_write (path : Path) (content : ByteArray) :
    NeverRefuses (write path content) :=
  .bind (neverRefuses_makeParent path) fun _ ↦
    .ite _ .fail (.bind .get fun _ ↦ .ite _ .fail (.modify _))

end FileTree

theorem Desk.neverRefuses_write (path : Path) (v : Json) : NeverRefuses (Desk.write path v) :=
  .ite _ (.bind (.within (FileTree.neverRefuses_makeParent _)) fun _ ↦ .fail)
    (.ite _ (.bind (.within (FileTree.neverRefuses_write _ _)) fun _ ↦ .fail)
      (.within (FileTree.neverRefuses_write _ _)))

/-! ### Collections -/

namespace Collection

variable (c : Collection)

theorem refusesCleanly_save (typed : Option String) : RefusesCleanly (c.save typed) := by
  refine .bind_of_readOnly (Desk.readOnly_recordsAt _) fun records ↦
    .ite _ (ReadOnly.pure _).refusesCleanly (.bind_of_readOnly .get fun d ↦ ?_)
  exact .bind_of_readOnly (.ofExcept _) fun path ↦
    (NeverRefuses.bind (Desk.neverRefuses_write _ _) fun _ ↦ .pure _).refusesCleanly

theorem refusesCleanly_load (typed : Option String) : RefusesCleanly (c.load typed) := by
  refine .bind_of_readOnly .get fun d ↦ .bind_of_readOnly (.ofExcept _) fun path ↦
    .bind_of_readOnly (.ofExcept _) fun v ↦ ?_
  split
  · exact (ReadOnly.refuse _).refusesCleanly
  · exact (NeverRefuses.bind (Desk.neverRefuses_onStore (Store.neverRefuses_writeRecords _ _))
      fun _ ↦ .pure _).refusesCleanly

end Collection

theorem Notes.refusesCleanly_add (text : String) : RefusesCleanly (Notes.add text) :=
  .bind_of_neverRefuses (Desk.refusesCleanly_onStore (Store.refusesCleanly_append _ _))
    fun _ ↦ .pure _

theorem Notes.refusesCleanly_finishEdit (place : Nat) (text : Option String) :
    RefusesCleanly (Notes.finishEdit place text) := by
  cases text with
  | none => exact (ReadOnly.pure _).refusesCleanly
  | some text =>
    exact .bind_of_neverRefuses (Desk.refusesCleanly_onStore (Store.refusesCleanly_replaceAt _ _ _))
      fun _ ↦ .pure _

theorem Notes.refusesCleanly_delete (term : String) : RefusesCleanly (Notes.delete term) :=
  .bind_of_readOnly .get fun _ ↦ .bind_of_readOnly (.ofExcept _) fun _ ↦
    .bind_of_neverRefuses (Desk.refusesCleanly_onStore (Store.refusesCleanly_removeAt _ _))
      fun _ ↦ .pure _

theorem Todos.refusesCleanly_add (text : String) : RefusesCleanly (Todos.add text) :=
  .ite _ (ReadOnly.refuse _).refusesCleanly
    (.bind_of_neverRefuses (Desk.refusesCleanly_onStore (Store.refusesCleanly_append _ _))
      fun _ ↦ .pure _)

namespace Todos

theorem unrefused_shownField (fields : Fields) (key : String) :
    Unrefused (Collection.shownField fields key) := by
  rw [Collection.shownField]
  cases fields.get? key with
  | none => exact .ok _
  | some v =>
    rw [Option.map_some, Option.getD_some, Collection.shown]
    split
    · exact .ok _
    · exact .unexpected

theorem unrefused_line (record : Json) : Unrefused (line record) := by
  unfold line
  split
  · exact .bind (unrefused_shownField _ _) fun _ ↦ .ok _
  · exact .unexpected

theorem unrefused_numbered (n : Nat) (rs : List Json) :
    Unrefused (Collection.numbered line n rs) := by
  induction rs generalizing n with
  | nil => exact .ok _
  | cons r rs ih => exact .bind (unrefused_line r) fun _ ↦ .bind (ih (n + 1)) fun _ ↦ .ok _

/-- The listing that follows a mark is not refused: by then the mark has been written. -/
theorem unrefused_list (d : Desk) : Unrefused (collection.list d) := by
  refine .bind (d.store.unrefused_list _) fun rs ↦ ?_
  split
  · exact .ok _
  · exact .bind (unrefused_numbered 1 _) fun _ ↦ .ok _

theorem refusesCleanly_markDone (word : Option String) : RefusesCleanly (markDone word) := by
  refine .bind_of_readOnly (.ofExcept _) fun number ↦
    .bind_of_readOnly (Desk.readOnly_recordsAt _) fun records ↦
      .ite _ (ReadOnly.refuse _).refusesCleanly
        (.bind_of_readOnly (.require _) fun fields ↦ .bind_of_neverRefuses
          (Desk.refusesCleanly_onStore (Store.refusesCleanly_replaceAt _ _ _)) fun _ ↦ ?_)
  exact .bind .get fun d ↦ .bind (.ofExcept (unrefused_list d)) fun _ ↦ .pure _

end Todos

namespace Links

theorem refusesCleanly_add (address name : String) : RefusesCleanly (add address name) :=
  .ite _ (ReadOnly.refuse _).refusesCleanly
    (.bind_of_neverRefuses (Desk.refusesCleanly_onStore (Store.refusesCleanly_append _ _))
      fun _ ↦ .pure _)

theorem refusesCleanly_go (term : String) : RefusesCleanly (go term) :=
  .bind_of_readOnly .get fun _ ↦ .bind_of_readOnly (.ofExcept _) fun _ ↦
    .bind_of_readOnly (.ofExcept _) fun _ ↦ .bind_of_readOnly (.ofExcept _) fun _ ↦
      .bind_of_readOnly (.require _) fun _ ↦
        (NeverRefuses.bind (.modify _) fun _ ↦ .pure _).refusesCleanly

theorem refusesCleanly_delete (term : String) : RefusesCleanly (delete term) :=
  .bind_of_readOnly .get fun _ ↦ .bind_of_readOnly (.ofExcept _) fun _ ↦
    .bind_of_neverRefuses (Desk.refusesCleanly_onStore (Store.refusesCleanly_removeAt _ _))
      fun _ ↦ .pure _

theorem refusesCleanly_rename (term newName : String) : RefusesCleanly (rename term newName) :=
  .ite _ (ReadOnly.refuse _).refusesCleanly
    (.bind_of_readOnly .get fun _ ↦ .bind_of_readOnly (.ofExcept _) fun _ ↦
      .bind_of_readOnly (.ofExcept _) fun _ ↦ .bind_of_neverRefuses
        (Desk.refusesCleanly_onStore (Store.refusesCleanly_replaceAt _ _ _)) fun _ ↦ .pure _)

end Links

namespace Contacts

theorem refusesCleanly_add (name info : String) : RefusesCleanly (add name info) :=
  .ite _ (ReadOnly.refuse _).refusesCleanly
    (.bind_of_neverRefuses (Desk.refusesCleanly_onStore (Store.refusesCleanly_append _ _))
      fun _ ↦ .pure _)

/-- The refusal comes after the removal, but only if there was nothing to remove. -/
theorem refusesCleanly_delete (name : String) : RefusesCleanly (delete name) := by
  refine .bind_of_readOnly (.ofExcept _) fun _ ↦ ?_
  intro d d' reason h
  -- the removal itself is never refused, so it was carried out and has found nothing
  rcases perform_bind_eq_error.1 h with h | ⟨removed, u, hremoved, h⟩
  · exact absurd h (Desk.neverRefuses_onStore (Store.neverRefuses_removeWhere _ _) _ _ _)
  · by_cases hempty : removed.isEmpty
    · simp only [hempty, if_true, perform_refuse, Prod.mk.injEq] at h
      rw [← h.2]
      rw [Desk.onStore, perform_within, Prod.mk.injEq] at hremoved
      rw [← hremoved.2]
      exact congrArg (fun store ↦ { d with store })
        (Store.removeWhere_of_isEmpty (Prod.ext hremoved.1 rfl) hempty)
    · simp [hempty] at h

end Contacts

/-! ### The agenda -/

namespace Agenda

theorem unrefused_keyOf (entry : Json) : Unrefused (keyOf entry) := by
  unfold keyOf
  split
  · exact .ok _
  · exact .unexpected

theorem refusesCleanly_add (day : Option String) (text : String) :
    RefusesCleanly (add day text) :=
  .bind_of_readOnly (.ofExcept _) fun _ ↦ .ite _ (ReadOnly.refuse _).refusesCleanly
    (.bind_of_neverRefuses (Desk.refusesCleanly_onStore (Store.refusesCleanly_append _ _))
      fun _ ↦ .pure _)

theorem refusesCleanly_save (typed : Option String) : RefusesCleanly (save typed) :=
  .bind_of_readOnly .get fun _ ↦ .bind_of_readOnly (.ofExcept _) fun _ ↦
    .ite _ (ReadOnly.pure _).refusesCleanly (.bind_of_readOnly (.ofExcept _) fun _ ↦
      (NeverRefuses.bind (Desk.neverRefuses_write _ _) fun _ ↦ .pure _).refusesCleanly)

theorem neverRefuses_clearEntry (kept : List String) (entry : Json) :
    NeverRefuses (clearEntry kept entry) :=
  .bind (.ofExcept (unrefused_keyOf entry)) fun _ ↦
    .ite _ (.pure _) (Store.neverRefuses_writeRecords _ _)

/-- Replacing the agenda takes many writes, and none of them is refused. -/
theorem neverRefuses_replace (days : List (String × List Json)) :
    NeverRefuses (replace days) :=
  .bind .get fun s ↦
    .bind (.ofExcept (.bind (s.unrefused_list _) Store.unrefused_sorted)) fun _ ↦
      .bind (.forM fun entry ↦ neverRefuses_clearEntry _ entry) fun _ ↦
        .forM fun _ ↦ Store.neverRefuses_writeRecords _ _

theorem refusesCleanly_load (typed : Option String) : RefusesCleanly (load typed) := by
  refine .bind_of_readOnly .get fun d ↦ .bind_of_readOnly (.ofExcept _) fun path ↦
    .bind_of_readOnly (.ofExcept _) fun v ↦ ?_
  split
  · exact (ReadOnly.refuse _).refusesCleanly
  · exact (NeverRefuses.bind (Desk.neverRefuses_onStore (neverRefuses_replace _))
      fun _ ↦ .pure _).refusesCleanly

end Agenda

/-! ### The scheduler -/

namespace Scheduler

theorem refusesCleanly_startPomodoro (work rest : Json) :
    RefusesCleanly (startPomodoro work rest) :=
  .bind_of_readOnly .get fun _ ↦ .ite _ (ReadOnly.refuse _).refusesCleanly
    (.bind_of_readOnly (.ofExcept _) fun _ ↦ .bind_of_readOnly (.ofExcept _) fun _ ↦
      (NeverRefuses.bind (.modify _) fun _ ↦
        .bind (.modify _) fun _ ↦ .pure _).refusesCleanly)

theorem refusesCleanly_startCountdown (minutes : Json) (message : String) :
    RefusesCleanly (startCountdown minutes message) :=
  .bind_of_readOnly .get fun _ ↦ .ite _ (ReadOnly.refuse _).refusesCleanly
    (.bind_of_readOnly (.ofExcept _) fun _ ↦
      (NeverRefuses.bind (.modify _) fun _ ↦ .pure _).refusesCleanly)

theorem refusesCleanly_stopSlot (kind : TimerKind) : RefusesCleanly (stopSlot kind) :=
  .bind_of_readOnly .get fun _ ↦ .ite _ (ReadOnly.refuse _).refusesCleanly
    (NeverRefuses.bind (.modify _) fun _ ↦ .modify _).refusesCleanly

theorem refusesCleanly_remind (now : Moment) (time message : String) :
    RefusesCleanly (remind now time message) :=
  .bind_of_readOnly (.ofExcept _) fun _ ↦ .ite _ (ReadOnly.refuse _).refusesCleanly
    (NeverRefuses.bind (.modify _) fun _ ↦ .pure _).refusesCleanly

end Scheduler

/-! ### Requests -/

namespace App

theorem refusesCleanly_onDesk {α : Type} {a : Action Desk α} (h : RefusesCleanly a) :
    RefusesCleanly (onDesk a) :=
  .within (fun _ ↦ rfl) h

theorem refusesCleanly_onScheduler {α : Type} {a : Action Scheduler α} (h : RefusesCleanly a) :
    RefusesCleanly (onScheduler a) :=
  .within (fun _ ↦ rfl) h

theorem readOnly_view {α : Type} (f : Desk → Except Failure α) : ReadOnly (view f) :=
  .bind .get fun _ ↦ .ofExcept _

/-- **Every request is refused cleanly.** -/
theorem refusesCleanly_answer (request : Request) : RefusesCleanly (answer request) := by
  cases request with
  | nothing => exact (ReadOnly.pure _).refusesCleanly
  | editNote term => exact (ReadOnly.pure _).refusesCleanly
  | openAddress address =>
    exact (NeverRefuses.bind (.within (.modify _)) fun _ ↦ .pure _).refusesCleanly
  | help => exact (ReadOnly.pure _).refusesCleanly
  | helpOn topic =>
    rw [answer]
    split
    · exact (ReadOnly.pure _).refusesCleanly
    · exact (ReadOnly.refuse _).refusesCleanly
  | clear => exact (ReadOnly.pure _).refusesCleanly
  | list kind => exact (readOnly_view _).refusesCleanly
  | save kind path => exact refusesCleanly_onDesk (Collection.refusesCleanly_save _ path)
  | load kind path => exact refusesCleanly_onDesk (Collection.refusesCleanly_load _ path)
  | addNote text => exact refusesCleanly_onDesk (Notes.refusesCleanly_add text)
  | deleteNote term => exact refusesCleanly_onDesk (Notes.refusesCleanly_delete term)
  | addTodo text => exact refusesCleanly_onDesk (Todos.refusesCleanly_add text)
  | markDone word => exact refusesCleanly_onDesk (Todos.refusesCleanly_markDone word)
  | addLink address name => exact refusesCleanly_onDesk (Links.refusesCleanly_add address name)
  | goLink term => exact refusesCleanly_onDesk (Links.refusesCleanly_go term)
  | renameLink term name => exact refusesCleanly_onDesk (Links.refusesCleanly_rename term name)
  | deleteLink term => exact refusesCleanly_onDesk (Links.refusesCleanly_delete term)
  | addContact name info => exact refusesCleanly_onDesk (Contacts.refusesCleanly_add name info)
  | findContacts term => exact (readOnly_view _).refusesCleanly
  | deleteContacts name => exact refusesCleanly_onDesk (Contacts.refusesCleanly_delete name)
  | month typed => exact (ReadOnly.bind .get fun _ ↦ .ofExcept _).refusesCleanly
  | addEvent day text => exact refusesCleanly_onDesk (Agenda.refusesCleanly_add day text)
  | viewEvents day => exact (readOnly_view _).refusesCleanly
  | saveAgenda path => exact refusesCleanly_onDesk (Agenda.refusesCleanly_save path)
  | loadAgenda path => exact refusesCleanly_onDesk (Agenda.refusesCleanly_load path)
  | startPomodoro work rest =>
    exact .bind_of_neverRefuses
      (refusesCleanly_onScheduler (Scheduler.refusesCleanly_startPomodoro _ _)) fun _ ↦ .pure _
  | stopPomodoro =>
    exact .bind_of_neverRefuses (refusesCleanly_onScheduler
      (.bind_of_neverRefuses (Scheduler.refusesCleanly_stopSlot _) fun _ ↦ .pure _)) fun _ ↦ .pure _
  | startCountdown minutes message =>
    exact .bind_of_neverRefuses
      (refusesCleanly_onScheduler (Scheduler.refusesCleanly_startCountdown _ _)) fun _ ↦ .pure _
  | stopCountdown =>
    exact .bind_of_neverRefuses (refusesCleanly_onScheduler
      (.bind_of_neverRefuses (Scheduler.refusesCleanly_stopSlot _) fun _ ↦ .pure _)) fun _ ↦ .pure _
  | remind time message =>
    exact .bind_of_readOnly .get fun _ ↦ .bind_of_neverRefuses
      (refusesCleanly_onScheduler (Scheduler.refusesCleanly_remind _ _ _)) fun _ ↦ .pure _
  | time => exact (ReadOnly.bind .get fun _ ↦ .pure _).refusesCleanly
  | calculate expression => exact (ReadOnly.ofExcept _).refusesCleanly

theorem refusesCleanly_carryOut (request : Request) : RefusesCleanly (carryOut request) := by
  unfold carryOut
  split
  · exact (ReadOnly.bind (readOnly_view _) fun _ ↦ .pure _).refusesCleanly
  · exact .bind_of_neverRefuses (refusesCleanly_answer _) fun _ ↦ .pure _

/-- A note that waits for its new text was only looked up. -/
theorem eq_of_carryOut_editing {request : Request} {app app' : App} {place : Nat} {text : String}
    (h : (carryOut request).perform app = (.ok (.editing place text), app')) : app' = app := by
  unfold carryOut at h
  split at h
  · exact (ReadOnly.bind (readOnly_view _) fun _ ↦ .pure _).perform_snd h
  · obtain ⟨rs, u, -, h⟩ := perform_bind_eq_ok.1 h
    exact absurd (congrArg Prod.fst h) (by simp)

theorem refusesCleanly_resume (place : Nat) (text : Option String) :
    RefusesCleanly (resume place text) :=
  refusesCleanly_onDesk (Notes.refusesCleanly_finishEdit place text)

end App

end Organizer
