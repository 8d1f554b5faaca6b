import Mathlib.Data.List.Basic
import Organizer.FileTree
import Organizer.Proofs.Action.Performing

/-!
# Saved files are found again

What was written to a path is read from it (`read_of_write`). On the way directories may be created
and the path may lead back by two dots, so the argument does not compare places: all directories
that there were on the way are still there after the file has been put (`Keeps`), because a file
never takes the place of a directory, and so the path leads to where it led.
-/

namespace Organizer

open Organizer.Action

namespace Path

theorem mem_intercalate_iff {sep : List Char} {c : Char} (hsep : c ∉ sep)
    {ws : List (List Char)} : c ∈ sep.intercalate ws ↔ ∃ w ∈ ws, c ∈ w := by
  induction ws with
  | nil => simp
  | cons w ws ih =>
    cases ws with
    | nil => simp
    | cons w' ws =>
      rw [List.intercalate_cons_cons, List.mem_append, List.mem_append, ih]
      simp [hsep]

/-- A path holds the null character exactly if one of its parts does. -/
theorem holdsNull_text_iff (p : Path) :
    holdsNull p.text = true ↔ ∃ part ∈ p.parts, holdsNull part = true := by
  have hroot : '\x00' ∉ (PathRoot.text p.root).toList := by
    cases p.root <;> decide
  have hslash : '\x00' ∉ "/".toList := by decide
  simp only [holdsNull, List.contains_iff_mem]
  rw [text]
  split
  · rename_i hnowhere
    simp [hnowhere.2]
  · rw [String.toList_append, String.toList_intercalate, List.mem_append,
      mem_intercalate_iff hslash]
    simp [hroot]

/-- A path with a last part is that part below the others. -/
theorem parts_eq_append_name {p : Path} (h : p.parts ≠ []) :
    p.parts.dropLast ++ [p.name] = p.parts := by
  have hlast : p.name = p.parts.getLast h := by
    rw [name, List.getLast?_eq_some_getLast h, Option.getD_some]
  rw [hlast, List.dropLast_concat_getLast]

end Path

namespace FileTree

variable {t u : FileTree}

/-! ### What is found at a place -/

theorem lookup_setEntry (entries : List (Place × Entry)) (place p : Place) (e : Entry) :
    (setEntry entries place e).lookup p = if p = place then some e else entries.lookup p := by
  induction entries with
  | nil =>
    by_cases h : p = place
    · simp [setEntry, h]
    · simp [setEntry, List.lookup_cons, beq_eq_false_iff_ne.2 h, h]
  | cons entry entries ih =>
    obtain ⟨q, d⟩ := entry
    by_cases hq : q = place
    · subst hq
      by_cases h : p = q
      · simp [setEntry, h]
      · simp [setEntry, List.lookup_cons, beq_eq_false_iff_ne.2 h, h]
    · by_cases h : p = q
      · subst h
        simp [setEntry, hq]
      · simp only [setEntry, hq, if_false, List.lookup_cons, beq_eq_false_iff_ne.2 h, ih]

theorem get?_put_self {place : Place} (hplace : place ≠ []) (e : Entry) :
    (t.put place e).get? place = some e := by
  rw [get?, if_neg hplace, put, lookup_setEntry, if_pos rfl]

theorem get?_put_of_ne {place p : Place} (hne : p ≠ place) (e : Entry) :
    (t.put place e).get? p = t.get? p := by
  rw [get?, get?, put, lookup_setEntry, if_neg hne]

theorem isDirectory_iff {place : Place} :
    t.isDirectory place = true ↔ t.get? place = some .directory := beq_iff_eq

theorem isDirectory_root (t : FileTree) : t.isDirectory [] = true := rfl

/-! ### Directories stay -/

/-- All directories of the one are directories of the other. -/
def Keeps (t u : FileTree) : Prop :=
  ∀ place, t.isDirectory place = true → u.isDirectory place = true

theorem Keeps.trans {v : FileTree} (h : Keeps t u) (h' : Keeps u v) : Keeps t v :=
  fun place hplace ↦ h' place (h place hplace)

/-- To put something where there is no directory takes none away. -/
theorem keeps_put {place : Place} (h : t.isDirectory place = false) (e : Entry) :
    Keeps t (t.put place e) := by
  intro p hp
  have hne : p ≠ place := by
    rintro rfl
    rw [hp] at h
    exact absurd h (by decide)
  rwa [isDirectory, get?_put_of_ne hne]

theorem follow_of_keeps (h : Keeps t u) {place q : Place} {parts : List String}
    (hfollow : t.follow place parts = some q) : u.follow place parts = some q := by
  induction parts generalizing place with
  | nil => exact hfollow
  | cons part parts ih =>
    rw [follow] at hfollow ⊢
    split at hfollow
    · rename_i hstep
      obtain ⟨hplace, hfits⟩ := Bool.and_eq_true_iff.1 hstep
      rw [h place hplace, hfits, Bool.and_self, if_pos rfl]
      exact ih hfollow
    · cases hfollow

theorem follow_append (t : FileTree) (place : Place) (parts parts' : List String) :
    t.follow place (parts ++ parts') = (t.follow place parts).bind (t.follow · parts') := by
  induction parts generalizing place with
  | nil => rfl
  | cons part parts ih =>
    rw [List.cons_append, follow, follow]
    split
    · exact ih _
    · rfl

/-- **The directories that lead to a file are there** once they have been made, and the path leads
through them. -/
theorem follow_of_makeDirectories {place q : Place} {parts : List String}
    (hplace : t.isDirectory place = true)
    (h : (makeDirectories place parts).perform t = (.ok q, u)) :
    Keeps t u ∧ u.isDirectory q = true ∧ u.follow place parts = some q := by
  induction parts generalizing place t with
  | nil =>
    cases h
    exact ⟨fun _ hp ↦ hp, hplace, rfl⟩
  | cons part parts ih =>
    rw [makeDirectories, perform_ite, perform_fail] at h
    split at h
    · cases h
    · rename_i hfits
      rw [Bool.not_eq_true, Bool.not_eq_false'] at hfits
      rw [perform_bind_of_ok (perform_get t)] at h
      -- one step leads to a directory, and from there the rest has been made
      have hrest {t' : FileTree} (hkeeps : Keeps t t')
          (hnext : t'.isDirectory (step place part) = true)
          (hmade : (makeDirectories (step place part) parts).perform t' = (.ok q, u)) :
          Keeps t u ∧ u.isDirectory q = true ∧ u.follow place (part :: parts) = some q := by
        obtain ⟨hkeeps', hq, hfollow⟩ := ih hnext hmade
        refine ⟨hkeeps.trans hkeeps', hq, ?_⟩
        rw [follow, hkeeps' place (hkeeps place hplace), hfits, Bool.and_self, if_pos rfl]
        exact hfollow
      split at h
      · exact hrest (fun _ hp ↦ hp) (isDirectory_iff.2 ‹_›) h
      · cases h
      · rename_i hnone
        rw [perform_bind_of_ok (perform_modify _ t)] at h
        have hroot : step place part ≠ [] := fun heq ↦ by simp [get?, heq] at hnone
        have hnot : t.isDirectory (step place part) = false := by simp [isDirectory, hnone]
        exact hrest (keeps_put hnot .directory) (isDirectory_iff.2 (get?_put_self hroot _)) h

/-- **What was written to a path is read from it.** -/
theorem read_of_write {path : Path} {content : ByteArray}
    (h : (write path content).perform t = (.ok (), u)) : u.read path = .ok content := by
  rw [write] at h
  obtain ⟨place, t', hmade, h⟩ := perform_bind_eq_ok.1 h
  rw [makeParent, perform_ite, perform_fail] at hmade
  split at hmade
  · cases hmade
  rename_i hparent
  rw [Bool.or_eq_true, not_or] at hparent
  obtain ⟨hparent, hlength⟩ := hparent
  rw [perform_ite, perform_fail] at h
  split at h
  · cases h
  rename_i hname
  rw [Bool.or_eq_true, not_or] at hname
  obtain ⟨hname, hfits⟩ := hname
  rw [perform_bind_of_ok (perform_get t'), perform_ite, perform_fail] at h
  split at h
  · cases h
  rename_i htarget
  rw [Bool.or_eq_true, not_or, List.isEmpty_iff] at htarget
  obtain ⟨hparts, htarget⟩ := htarget
  rw [perform_modify] at h
  cases h
  -- the file has been put where no directory was, so all that leads to it is still there
  obtain ⟨-, hplace, hfollow⟩ := follow_of_makeDirectories (isDirectory_root t) hmade
  have hnot : t'.isDirectory (step place path.name) = false := Bool.not_eq_true _ ▸ htarget
  have hkeeps := keeps_put hnot (.file content)
  have hroot : step place path.name ≠ [] := by
    intro heq
    rw [heq, isDirectory_root] at hnot
    exact absurd hnot (by decide)
  have hleads : (t'.put (step place path.name) (.file content)).follow [] path.parts =
      some (step place path.name) := by
    rw [← Path.parts_eq_append_name hparts, follow_append, follow_of_keeps hkeeps hfollow]
    simp only [Option.bind_some, follow, hkeeps place hplace, Bool.true_and]
    rw [if_pos (by simpa using hfits)]
  have hnull : ¬ Path.holdsNull path.text = true := by
    rw [Path.holdsNull_text_iff, ← Path.parts_eq_append_name hparts]
    rintro ⟨part, hpart, hholds⟩
    rcases List.mem_append.1 hpart with hpart | hpart
    · exact hparent ((Path.holdsNull_text_iff _).2 ⟨part, hpart, hholds⟩)
    · exact hname (List.mem_singleton.1 hpart ▸ hholds)
  rw [read, if_neg hnull, if_neg (by simpa using hlength), hleads, Option.bind_some,
    get?_put_self hroot]

end FileTree

end Organizer
