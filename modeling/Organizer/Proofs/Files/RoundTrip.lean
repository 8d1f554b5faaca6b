import Organizer.Desk
import Organizer.Proofs.Files.Saving
import Organizer.Proofs.Json.Readable
import Organizer.Proofs.Store.Writing

/-!
# What is written is read back

Values go to files in one written form, whether they are saved for a person or are the mapping of
the store, and they come back as they were: with the same items and the same fields in the same
order (`written_and_read`). The form itself knows no limits. The reader has one, the room for
nesting, and a value is read back exactly if there is room for it.
-/

namespace Organizer

open Organizer.Action Json

theorem fromUTF8?_toUTF8 (s : String) : String.fromUTF8? s.toUTF8 = some s := by
  rw [String.fromUTF8?]
  exact dif_pos s.isValidUTF8

theorem Json.ofBytes_toUTF8 (s : String) : Json.ofBytes s.toUTF8 = Json.read s := by
  rw [Json.ofBytes, fromUTF8?_toUTF8]
  rfl

/-- A store is opened on the bytes of a text as it is on the text. -/
theorem Store.ofFile_toUTF8 (text : String) : ofFile (some text.toUTF8) = ofText text := by
  rw [ofFile, Option.bind_some, fromUTF8?_toUTF8]

namespace Desk

variable {d d' : Desk} {path : Path} {v : Json}

/-- What is saved can be turned into text, is not torn, and is the only thing that changes. -/
theorem perform_write_eq_ok : (write path v).perform d = (.ok (), d') ↔
    (v.isShowable = true ∧ v.hasTorn = false) ∧ ∃ files,
      (FileTree.write path v.write.toUTF8).perform d.files = (.ok (), files) ∧
        d' = { d with files } := by
  rw [write, perform_ite, perform_ite]
  split
  · rename_i hshown
    refine ⟨fun h ↦ ?_, fun h ↦ absurd h.1.1 (by simpa using hshown)⟩
    obtain ⟨x, u, -, h⟩ := perform_bind_eq_ok.1 h
    cases h
  rename_i hshown
  split
  · rename_i htorn
    refine ⟨fun h ↦ ?_, fun h ↦ absurd h.1.2 (by simp [htorn])⟩
    obtain ⟨x, u, -, h⟩ := perform_bind_eq_ok.1 h
    cases h
  · rename_i htorn
    rw [onFiles, perform_within, Prod.mk.injEq]
    refine ⟨fun h ↦ ⟨⟨by simpa using hshown, Bool.not_eq_true _ ▸ htorn⟩, _,
      Prod.ext h.1 rfl, h.2.symm⟩, ?_⟩
    rintro ⟨-, files, hwrite, rfl⟩
    rw [hwrite]
    exact ⟨rfl, rfl⟩

/-- **A saved value is read back** from the file that it was saved to. -/
theorem read_of_perform_write (h : (write path v).perform d = (.ok (), d'))
    (hproper : v.isProper = true) (hscalars : v.allScalars Scalar.isReadable = true)
    (hdepth : v.depth ≤ maxRead) : d'.read path = .ok v := by
  obtain ⟨⟨-, htorn⟩, files, hwrite, rfl⟩ := perform_write_eq_ok.1 h
  have hread : Json.read v.write = .ok v :=
    (readChars_write_iff hproper (allScalars_isWritable hscalars htorn) maxRead).2 hdepth
  rw [read, FileTree.read_of_write hwrite]
  simp only [ofBytes_toUTF8, hread]

end Desk

/-- The file of a store that has been written out holds the mapping. -/
theorem Store.ofFile_of_perform_flush {s t : Store} (hproper : (Json.obj s.entries).isProper = true)
    (hfile : s.backing ≠ .memory) (h : flush.perform s = (.ok (), t)) :
    ∃ text, t.fileText? = some text ∧ text = (Json.obj s.entries).write ∧
      ofFile (some text.toUTF8) =
        withIndex { entries := s.entries, backing := .file [text] } := by
  rw [perform_flush] at h
  split at h
  · rename_i hsave
    obtain ⟨-, rfl⟩ := Prod.mk.inj h
    have htext : s.flushed.fileText? = some (textOf s.entries) := by
      have hstep := (inStep_flushed s).resolve_left (mt (flushed_backing s).1 hfile)
      rwa [flushed_entries] at hstep
    have hwritable : (Json.obj s.entries).isWritable = true := by
      rw [canSave] at hsave
      split at hsave
      · exact absurd ‹_› hfile
      · exact hsave
    refine ⟨_, htext, rfl, ?_⟩
    rw [ofFile_toUTF8, ofText, entriesOf_textOf hwritable, rereadEntries_of_isProper hproper]
    rfl
  · cases h

/-- **What is written is read back, and what is read can be written and read again.**

* A value that is proper JSON, without torn texts and without numbers that are too long to be read,
  is read back from its text with all items and fields in their order, exactly if the reader has
  room for its levels.
* A text in any layout and with any escapes that is read as a value without torn texts gives the
  same value if that is written and read again.
* A value that has been saved to a file is read from that file.
* A store whose mapping has been written out is opened on that mapping again. -/
theorem written_and_read :
    (∀ v : Json, v.isProper = true → v.allScalars Scalar.isWritable = true →
      ∀ room, readChars room v.write.toList = .ok v ↔ v.depth ≤ room) ∧
    (∀ (room : Nat) (text : String) (v : Json), readChars room text.toList = .ok v →
      v.hasTorn = false → readChars room v.write.toList = .ok v) ∧
    (∀ (path : Path) (v : Json) (d d' : Desk), v.isProper = true →
      v.allScalars Scalar.isReadable = true → v.depth ≤ maxRead →
      (Desk.write path v).perform d = (.ok (), d') → d'.read path = .ok v) ∧
    (∀ s t : Store, (Json.obj s.entries).isProper = true → s.backing ≠ .memory →
      Store.flush.perform s = (.ok (), t) →
      ∃ text, t.fileText? = some text ∧ text = (Json.obj s.entries).write ∧
        Store.ofFile (some text.toUTF8) =
          Store.withIndex { entries := s.entries, backing := .file [text] }) := by
  refine ⟨fun v hproper hscalars room ↦ readChars_write_iff hproper hscalars room, ?_, ?_, ?_⟩
  · exact fun room text v hread htorn ↦ readChars_write_of_readChars hread htorn
  · exact fun path v d d' hproper hscalars hdepth h ↦
      Desk.read_of_perform_write h hproper hscalars hdepth
  · exact fun s t hproper hfile h ↦ Store.ofFile_of_perform_flush hproper hfile h

/-- A value with a part of every kind. -/
def everyKind : Json :=
  .obj [("a\"\\\n\x01é", .arr [.null, .bool true, .int (-120), .arr [], .obj []]), ("", .str "\t")]

/-- A text in another layout, with a name that stands twice. -/
def otherLayout : String := "\x7b \"a\" : 1,\n\"\\u0061\":[ 2.50 ] \x7d"

/-- A desk with nothing on it. -/
def emptyDesk : Desk :=
  { store := ⟨[], .memory⟩, home := ⟨.slash, []⟩, savedFiles := ⟨.slash, []⟩ }

/-- A value with a part of every kind is read back, from the file that it was saved to and from the
file of a store, and another layout is read, written and read again. -/
theorem written_and_read_every_kind :
    Json.read everyKind.write = .ok everyKind ∧
    (∃ d', (Desk.write ⟨.slash, ["home", "a"]⟩ everyKind).perform emptyDesk = (.ok (), d') ∧
      d'.read ⟨.slash, ["home", "a"]⟩ = .ok everyKind) ∧
    (∃ t : Store, Store.flush.perform ⟨[("a", everyKind)], .file []⟩ = (.ok (), t) ∧
      ∃ text, t.fileText? = some text ∧ Store.ofFile (some text.toUTF8) =
        Store.withIndex { entries := [("a", everyKind)], backing := .file [text] }) ∧
    ∃ v, Json.read otherLayout = .ok v ∧ Json.read v.write = .ok v := by
  obtain ⟨hvalues, htexts, hfiles, hstores⟩ := written_and_read
  have hsave : ((Desk.write ⟨.slash, ["home", "a"]⟩ everyKind).perform emptyDesk).1 = .ok () := by
    decide +kernel
  have hflush := (Store.perform_flush ⟨[("a", everyKind)], .file []⟩).trans
    (if_pos (by decide +kernel))
  have hread : Json.read otherLayout = .ok (.obj [("a", .arr [.double 2.5])]) := by
    decide +kernel
  refine ⟨?_, ⟨_, Prod.ext hsave rfl, ?_⟩, ⟨_, hflush, ?_⟩, _, hread, ?_⟩
  · exact (hvalues everyKind (by decide +kernel) (by decide +kernel) maxRead).2 (by decide +kernel)
  · exact hfiles _ everyKind _ _ (by decide +kernel) (by decide +kernel) (by decide +kernel)
      (Prod.ext hsave rfl)
  · obtain ⟨text, htext, -, hopen⟩ := hstores ⟨[("a", everyKind)], .file []⟩ _
      (by decide +kernel) (by simp) hflush
    exact ⟨text, htext, hopen⟩
  · exact htexts maxRead otherLayout _ hread (by decide +kernel)

end Organizer
