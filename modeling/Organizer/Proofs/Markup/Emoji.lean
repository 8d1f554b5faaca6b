import Organizer.Markup.Reading
import Organizer.Proofs.Text.Lowering

/-!
# Texts without emoji codes

A text in which no code of an emoji stands is shown as it is (`plain?_of_codeFree`). Which codes are
found depends on where a run of characters begins, for two colons that belong together hide what
stands between them. That no code stands anywhere in a text does not depend on it: `CodeFree` looks
at all pieces of the text, and so it holds of each run if it holds of the whole.

A code holds no blank. So a text is free of codes if both sides of a blank in it are.
-/

namespace Organizer.Markup

open Text

variable {table : EmojiTable} {cs ds code : List Char} {c : Char} {ps : List Piece}

/-- The text could be the name in a code. -/
def IsName (code : List Char) : Prop := ∀ c ∈ code, c ≠ ':' ∧ isBlank c = false

/-- No code of an emoji stands in the text. -/
def CodeFree (table : EmojiTable) (cs : List Char) : Prop :=
  ∀ code, IsName code → coded code <:+: cs → emoji? table code = none

/-- What stands behind some characters of a text. -/
theorem CodeFree.of_append_right (h : CodeFree table (cs ++ ds)) : CodeFree table ds :=
  fun code hname hcode ↦ h code hname (hcode.trans (List.suffix_append cs ds).isInfix)

theorem CodeFree.of_cons (h : CodeFree table (c :: cs)) : CodeFree table cs :=
  fun code hname hcode ↦ h code hname (hcode.trans (List.suffix_cons c cs).isInfix)

theorem codeFree_noEmoji (cs : List Char) : CodeFree noEmoji cs := fun _ _ _ ↦ rfl

/-- A code has two colons. -/
theorem codeFree_of_count (h : cs.count ':' ≤ 1) : CodeFree table cs := by
  intro code _ hcode
  have hcount : 2 ≤ (coded code).count ':' := by
    rw [coded, List.cons_append, List.count_cons_self, List.count_append, List.count_singleton_self]
    omega
  exact absurd (hcode.sublist.count_le ':') (by omega)

theorem codeFree_of_not_mem (h : ':' ∉ cs) : CodeFree table cs :=
  codeFree_of_count (List.count_eq_zero_of_not_mem h ▸ Nat.zero_le 1)

/-- A code does not reach over a blank. -/
theorem codeFree_append_cons (hblank : isBlank c = true) (hcs : CodeFree table cs)
    (hds : CodeFree table ds) : CodeFree table (cs ++ c :: ds) := by
  intro code hname hcode
  have hnot : c ∉ coded code := by
    intro hmem
    rw [coded, List.cons_append, List.mem_cons, List.mem_append, List.mem_singleton] at hmem
    rcases hmem with rfl | hmem | rfl
    · exact absurd hblank (by decide)
    · simp [(hname c hmem).2] at hblank
    · exact absurd hblank (by decide)
  rcases (infix_append_cons_iff hnot).1 hcode with hcode | hcode
  · exact hcs code hname hcode
  · exact hds code hname hcode

/-! ### Pieces -/

theorem textOf_append (ps qs : List Piece) : textOf (ps ++ qs) = textOf ps ++ textOf qs :=
  List.filterMap_append

theorem textOf_map_char (cs : List Char) : textOf (cs.map .char) = cs := by
  rw [textOf, List.filterMap_map]
  exact List.filterMap_some

theorem textOf_cons_char (c : Char) (ps : List Piece) : textOf (.char c :: ps) = c :: textOf ps :=
  rfl

theorem textOf_cons_of_char? {p : Piece} (h : p.char? = none) (ps : List Piece) :
    textOf (p :: ps) = textOf ps :=
  List.filterMap_cons_none h

/-- Where no code stands nothing is replaced, though something may have been held back. -/
theorem textOf_replaceFrom {held : Option (List Char)} (hheld : ∀ code ∈ held, IsName code)
    (h : CodeFree table (heldText held ++ textOf ps)) :
    textOf (replaceFrom table held ps) = heldText held ++ textOf ps := by
  fun_induction replaceFrom table held ps with
  | case1 held => rw [textOf_map_char, textOf, List.filterMap_nil, List.append_nil]
  | case2 ps ih => exact ih (fun _ hcode ↦ Option.mem_some.1 hcode ▸ List.forall_mem_nil _) h
  | case3 c ps hcolon ih =>
    rw [textOf_cons_char, ih nofun h.of_cons]
    rfl
  | case4 code ps ih =>
    -- the second colon ends a code, but of no emoji
    have hcode : emoji? table code = none :=
      h code (hheld code rfl) ⟨[], textOf ps, by simp [coded, heldText, textOf_cons_char]⟩
    rw [textOf_cons_char] at h ⊢
    rw [hcode, Option.getD_none, textOf_append, textOf_map_char,
      ih nofun h.of_append_right.of_cons]
    simp [coded, heldText]
  | case5 code c ps hcolon hblank ih =>
    rw [textOf_cons_char] at h ⊢
    rw [textOf_append, textOf_map_char, ih nofun h.of_append_right.of_cons]
    simp [heldText]
  | case6 code c ps hcolon hblank ih =>
    have hname : IsName (code ++ [c]) :=
      List.forall_mem_append.2 ⟨hheld code rfl,
        List.forall_mem_singleton.2 ⟨hcolon, Bool.not_eq_true _ ▸ hblank⟩⟩
    have htext : heldText (some (code ++ [c])) ++ textOf ps =
        heldText (some code) ++ textOf (.char c :: ps) := by simp [heldText, textOf_cons_char]
    rw [ih (fun _ hcode ↦ Option.mem_some.1 hcode ▸ hname) (htext ▸ h), htext]
  | case7 held p ps hnone hsome ih =>
    -- the run is at its end, and what was held back is no code
    have hp : p.char? = none := by
      cases p with
      | char c => cases held with
        | none => exact (hnone c rfl rfl).elim
        | some code => exact (hsome code c rfl rfl).elim
      | edge | seam => rfl
    rw [textOf_cons_of_char? hp] at h ⊢
    rw [textOf_append, textOf_map_char, textOf_cons_of_char? hp, ih nofun h.of_append_right]
    rfl

theorem textOf_replaceCodes (h : CodeFree table (textOf ps)) :
    textOf (replaceCodes table ps) = textOf ps :=
  textOf_replaceFrom nofun h

/-- **A text without codes is shown as it would be without emoji.** -/
theorem plain?_of_codeFree {shown : List Char} (hplain : plain? cs = some shown)
    (h : CodeFree table shown) : plain? cs table = some shown := by
  obtain ⟨ps, hps, rfl⟩ := Option.map_eq_some_iff.1 hplain
  obtain ⟨qs, hqs, rfl⟩ := Option.map_eq_some_iff.1 hps
  rw [textOf_replaceCodes (codeFree_noEmoji _)] at h ⊢
  rw [plain?, pieces?, hqs, Option.map_some, Option.map_some, textOf_replaceCodes h]

/-- The first two colons hide the name, and a form is named behind a hyphen. -/
example : plain? ":a:tea: :Tea-text:".toList (fun name ↦ if name = "tea" then some "🍵" else none) =
    some ":a:tea: 🍵\uFE0E".toList := by decide +kernel

end Organizer.Markup
