import Organizer.Proofs.Calendar.RealDays
import Organizer.Proofs.Collection.Numbering
import Organizer.Proofs.Collection.Rewriting
import Organizer.Proofs.Json.Fields

/-!
# Marking an item as done

An item is named by a word that spells its number with ASCII digits, zeros in front included
(`Todos.Spells`). What a word is read as is said once, of all words (`Todos.numberOf_of_spells`,
`Todos.numberOf_of_not_spells`); the rest depends on the number alone. The item of that number is
marked and keeps its other fields, and the items beside it stay as they are.

A word of more than 4300 digits is not read as a number at all, and instead of a refusal there is an
unexpected failure, even if the word consists of zeros with a small number behind them
(`numbers_not_always_read`).
-/

namespace Organizer

open Organizer.Action Json Text

namespace Todos

variable {d : Desk} {L : List Json} {word : String} {i n : ℕ}

/-! ### Numbers -/

/-- A word that consists of ASCII digits spells a number. -/
def Spells (word : String) (n : ℕ) : Prop :=
  ∃ ds ≠ [], (∀ d ∈ ds, d < 10) ∧ word.toList = ds.map Nat.digitChar ∧ ofDigits ds = n

/-- The number that a word spells is read, unless the word is too long. -/
theorem numberOf_of_spells (h : Spells word n) :
    numberOf word = if Json.maxDigits < word.length then .error .unexpected else .ok n := by
  obtain ⟨ds, hne, hlt, hword, rfl⟩ := h
  obtain ⟨d, ds, rfl⟩ := List.exists_cons_of_ne_nil hne
  rw [numberOf, ← String.length_toList, hword, DayKey.mapM_asciiDigit?_digitChar hlt,
    List.length_map]

/-- A word that spells no number is refused, however long it is. -/
theorem numberOf_of_not_spells (h : ∀ n, ¬ Spells word n) :
    numberOf word = .error (.refused .notANumber) := by
  rw [numberOf]
  split
  · rename_i d ds hdigits
    obtain ⟨hword, hlt⟩ := DayKey.mapM_asciiDigit?_eq_some hdigits
    exact absurd ⟨d :: ds, List.cons_ne_nil d ds, hlt, hword, rfl⟩ (h (ofDigits (d :: ds)))
  · rfl

/-- Zeros in front do not count. -/
theorem spells_zeros (count : ℕ) (hn : n < 10) :
    Spells (String.ofList (List.replicate count '0' ++ [n.digitChar])) n := by
  refine ⟨List.replicate count 0 ++ [n], by simp, ?_, ?_, ?_⟩
  · intro d hd
    rcases List.mem_append.1 hd with hd | hd
    · rw [List.eq_of_mem_replicate hd]
      decide
    · rwa [List.mem_singleton.1 hd]
  · rw [String.toList_ofList, List.map_append, List.map_replicate, List.map_singleton]
    rfl
  · rw [ofDigits_append, ofDigits_replicate_zero, Nat.zero_mul, Nat.zero_add]
    exact (ofDigits_append_singleton [] n).trans (Nat.zero_add n)

/-- As many ones as one likes spell a number. -/
theorem spells_ones (count : ℕ) :
    Spells (String.ofList (List.replicate (count + 1) '1'))
      (ofDigits (List.replicate (count + 1) 1)) := by
  refine ⟨List.replicate (count + 1) 1, List.cons_ne_nil _ _, fun d hd ↦ ?_, ?_, rfl⟩
  · rw [List.eq_of_mem_replicate hd]
    decide
  · rw [String.toList_ofList, List.map_replicate]
    rfl

/-! ### Marking -/

/-- The confirmation that the item at a place is marked. -/
def confirmation (i : ℕ) : List Response :=
  Response.reply ("Todo " ++ Number.showNat (i + 1) ++ " marked as done.") .todo

/-- The item at a place has been marked as done, and the list follows the confirmation. To do it
once more changes nothing. -/
def Marks (d : Desk) (todos : List Json) (word : String) (i : ℕ) (item : Json)
    (outcome : Except Failure (List Response) × Desk) : Prop :=
  ∃ (fields fields' : Fields) (listing : List Response), item = .obj fields ∧
    fields.ChangesOnly "done" (.bool true) fields' ∧
    collection.list outcome.2 = .ok listing ∧
    d.Rewrites collection (todos.set i (.obj fields')) (confirmation i ++ listing) outcome ∧
    outcome.2.Rewrites collection (todos.set i (.obj fields')) (confirmation i ++ listing)
      ((markDone (some word)).perform outcome.2)

/-- What comes of marking the item that a word names. -/
structure MarksDone (d : Desk) (todos : List Json) (word : String)
    (outcome : Except Failure (List Response) × Desk) : Prop where
  marked : word.length ≤ Json.maxDigits → ∀ i item, todos[i]? = some item → Spells word (i + 1) →
    Marks d todos word i item outcome
  noSuchTodo : word.length ≤ Json.maxDigits → ∀ n, Spells word n → (n < 1 ∨ todos.length < n) →
    outcome = (.error (.refused (.noSuchTodo n)), d)
  notANumber : (∀ n, ¬ Spells word n) → outcome = (.error (.refused .notANumber), d)
  notRead : Json.maxDigits < word.length → ∀ n, Spells word n → outcome = (.error .unexpected, d)

theorem perform_markDone_of_error {e : Failure} (h : numberOf word = .error e) :
    (markDone (some word)).perform d = (.error e, d) :=
  perform_ofExcept_bind_of_error h

theorem exists_fields {item : Json} (h : accepts item = true) :
    ∃ fields : Fields, item = .obj fields ∧ Collection.hasText fields "text" = true := by
  cases item with
  | obj fields => exact ⟨fields, rfl, (Bool.and_eq_true_iff.1 h).1⟩
  | scalar | arr => cases h

/-- An item with a text is shown, whatever its mark is. -/
theorem exists_line {fields : Fields} (h : Collection.hasText fields "text" = true) :
    ∃ s, line (.obj fields) = .ok s := by
  obtain ⟨v, hget, htext⟩ := Collection.exists_get? h
  have hshown : Collection.shownField fields "text" = .ok v.display := by
    rw [Collection.shownField, hget]
    exact Collection.shown_eq_ok (isShowable_of_isText htext)
  exact ⟨_, by rw [line, hshown]; rfl⟩

section

variable (hrecords : collection.records d = .ok L)
include hrecords

theorem perform_recordsAt : (Desk.recordsAt collection.key).perform d = (.ok L, d) := by
  rw [Desk.recordsAt, perform_bind_of_ok (perform_get d), perform_ofExcept]
  exact congrArg (·, d) hrecords

theorem perform_markDone_of_noSuchTodo (hnumber : numberOf word = .ok n)
    (hout : n < 1 ∨ L.length < n) :
    (markDone (some word)).perform d = (.error (.refused (.noSuchTodo n)), d) := by
  rw [markDone, Option.map_some, Option.getD_some, perform_ofExcept_bind_of_ok hnumber,
    perform_bind_of_ok (perform_recordsAt hrecords), if_pos hout, perform_refuse]

theorem rewrites_markDone {fields : Fields} {listing : List Response}
    (hnumber : numberOf word = .ok (i + 1)) (hitem : L[i]? = some (.obj fields))
    (hlisting : ∀ e : Desk, collection.records e =
      .ok (L.set i (.obj (fields.set "done" (.bool true)))) → collection.list e = .ok listing) :
    d.Rewrites collection (L.set i (.obj (fields.set "done" (.bool true))))
      (confirmation i ++ listing) ((markDone (some word)).perform d) := by
  obtain ⟨hi, -⟩ := List.getElem?_eq_some_iff.1 hitem
  have hin : ¬ (i + 1 < 1 ∨ L.length < i + 1) := by omega
  have hfields : (L[i + 1 - 1]?).bind fieldsOf? = some fields := by
    rw [Nat.add_sub_cancel, hitem]
    rfl
  have hdepth : (obj (fields.set "done" (.bool true))).depth < Store.maxKept :=
    (depth_set_scalar fields "done" (.bool true)).trans_lt
      (Store.depth_lt_of_mem hrecords (List.mem_of_getElem? hitem))
  rw [markDone, Option.map_some, Option.getD_some, perform_ofExcept_bind_of_ok hnumber,
    perform_bind_of_ok (perform_recordsAt hrecords), if_neg hin, hfields,
    perform_bind_of_ok (perform_require_some ..)]
  refine Desk.rewrites_onStore .todos (Store.depth_set hrecords hdepth i)
    (Store.perform_replaceAt .todos hrecords hi rfl hdepth) fun e he ↦ ?_
  rw [perform_bind_of_ok (perform_get e), perform_ofExcept_bind_of_ok (hlisting e he), perform_pure]
  rfl

/-- **The item of a number is marked**, once and for all. -/
theorem marks_of_numberOf (haccepts : ∀ r ∈ L, accepts r = true) {item : Json}
    (hnumber : numberOf word = .ok (i + 1)) (hitem : L[i]? = some item) :
    Marks d L word i item ((markDone (some word)).perform d) := by
  obtain ⟨fields, rfl, htext⟩ := exists_fields (haccepts _ (List.mem_of_getElem? hitem))
  let fields' := fields.set "done" (.bool true)
  obtain ⟨hi, -⟩ := List.getElem?_eq_some_iff.1 hitem
  have hlines : ∀ r ∈ L.set i (.obj fields'), ∃ s, collection.line r = .ok s := by
    intro r hr
    rcases List.mem_or_eq_of_mem_set hr with hr | rfl
    · obtain ⟨others, rfl, hothers⟩ := exists_fields (haccepts r hr)
      exact exists_line hothers
    · refine exists_line ?_
      rwa [Collection.hasText, Fields.get?_set_of_ne _ _ (mt Scalar.text.inj (by decide))]
  obtain ⟨listing, hlisting⟩ := Collection.exists_list_eq_ok hlines
  have honce := rewrites_markDone hrecords hnumber hitem hlisting
  -- once marked, the item has the mark already
  have hsame : (L.set i (.obj fields')).set i (.obj (fields'.set "done" (.bool true))) =
      L.set i (.obj fields') := by
    rw [Fields.set_of_get? (Fields.get?_set_self fields "done" (.bool true)), List.set_set]
  have hitem' : (L.set i (.obj fields'))[i]? = some (.obj fields') := by
    rw [List.getElem?_set_self hi]
  have htwice := rewrites_markDone honce.listed hnumber hitem' (hsame.symm ▸ hlisting)
  rw [hsame] at htwice
  exact ⟨fields, fields', listing, rfl, fields.changesOnly_set "done" (.bool true),
    hlisting _ honce.listed, honce, htwice⟩

end

end Todos

/-- **A word that spells the number of an item marks it**, and any other word is refused and changes
nothing; but of a word that is a number nothing is read if it is too long. -/
theorem todos_marked_done {d : Desk} {todos : List Json}
    (hrecords : Todos.collection.records d = .ok todos)
    (haccepts : ∀ r ∈ todos, Todos.accepts r = true) (word : String) :
    Todos.MarksDone d todos word ((Todos.markDone (some word)).perform d) := by
  have hread {n : ℕ} (hshort : word.length ≤ Json.maxDigits) (h : Todos.Spells word n) :
      Todos.numberOf word = .ok n := by
    rw [Todos.numberOf_of_spells h, if_neg (Nat.not_lt.2 hshort)]
  constructor
  case marked =>
    intro hshort i item hitem h
    exact Todos.marks_of_numberOf hrecords haccepts (hread hshort h) hitem
  case noSuchTodo =>
    intro hshort n h hout
    exact Todos.perform_markDone_of_noSuchTodo hrecords (hread hshort h) hout
  case notANumber =>
    intro h
    exact Todos.perform_markDone_of_error (Todos.numberOf_of_not_spells h)
  case notRead =>
    intro hlong n h
    exact Todos.perform_markDone_of_error ((Todos.numberOf_of_spells h).trans (if_pos hlong))

/-- The second of two items is marked by a number with zeros in front, and keeps its tags. -/
theorem todos_marked_done_zeros :
    let item : Json := .obj [("done", .bool false), ("text", .str "a"), ("tags", .arr [])]
    let todos : List Json := [.obj [("text", .str "b")], item]
    let d := Desk.ofStore ⟨[("todos", .arr todos)], .memory⟩
    Todos.collection.records d = .ok todos ∧ (∀ r ∈ todos, Todos.accepts r = true) ∧
      Todos.Marks d todos "0002" 1 item ((Todos.markDone (some "0002")).perform d) := by
  intro item todos d
  have hrecords : Todos.collection.records d = .ok todos := by decide +kernel
  have haccepts : ∀ r ∈ todos, Todos.accepts r = true := by decide +kernel
  have hspells : Todos.Spells "0002" 2 := ⟨[0, 0, 0, 2], by decide, by decide, by decide, rfl⟩
  exact ⟨hrecords, haccepts,
    (todos_marked_done hrecords haccepts "0002").marked (by decide) 1 item rfl hspells⟩

/-- **A number is not always read.** There is no refusal of a number with 4301 digits, and a number
with so many zeros in front does not mark an item. -/
theorem numbers_not_always_read :
    (¬ ∀ (d : Desk) (todos : List Json) (word : String), Todos.collection.records d = .ok todos →
      (∀ r ∈ todos, Todos.accepts r = true) →
      (∀ i < todos.length, ¬ Todos.Spells word (i + 1)) →
      ∃ reason, ((Todos.markDone (some word)).perform d).1 = .error (.refused reason)) ∧
    ¬ ∀ (d : Desk) (todos : List Json) (word : String) (i : ℕ),
      Todos.collection.records d = .ok todos → (∀ r ∈ todos, Todos.accepts r = true) →
      i < todos.length → Todos.Spells word (i + 1) →
      ∃ answer, ((Todos.markDone (some word)).perform d).1 = .ok answer := by
  have hfails {d : Desk} {word : String} {n : ℕ} (hlong : Json.maxDigits < word.length)
      (h : Todos.Spells word n) :
      ((Todos.markDone (some word)).perform d).1 = .error .unexpected :=
    congrArg Prod.fst
      (Todos.perform_markDone_of_error ((Todos.numberOf_of_spells h).trans (if_pos hlong)))
  constructor
  · intro h
    let word := String.ofList (List.replicate (Json.maxDigits + 1) '1')
    have hlong : Json.maxDigits < word.length := by
      rw [← String.length_toList, String.toList_ofList, List.length_replicate]
      exact Nat.lt_succ_self _
    obtain ⟨reason, hreason⟩ := h (Desk.ofStore ⟨[], .memory⟩) [] word rfl (List.forall_mem_nil _)
      (fun i hi ↦ absurd hi (Nat.not_lt_zero i))
    rw [hfails hlong (Todos.spells_ones Json.maxDigits)] at hreason
    cases hreason
  · intro h
    let todo : Json := .obj [("text", .str "a"), ("done", .bool false)]
    let word := String.ofList (List.replicate Json.maxDigits '0' ++ ['1'])
    have hlong : Json.maxDigits < word.length := by
      rw [← String.length_toList, String.toList_ofList, List.length_append, List.length_replicate]
      exact Nat.lt_succ_self _
    have hspells : Todos.Spells word 1 := Todos.spells_zeros (n := 1) Json.maxDigits (by decide)
    obtain ⟨answer, hanswer⟩ := h (Desk.ofStore ⟨[("todos", .arr [todo])], .memory⟩) [todo] word 0
      (by decide +kernel) (by decide +kernel) Nat.one_pos hspells
    rw [hfails hlong hspells] at hanswer
    cases hanswer

end Organizer
