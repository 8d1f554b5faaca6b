import Mathlib.Data.List.SplitBy
import Organizer.Collection.Links
import Organizer.Proofs.Markup.Showing

/-!
# Tags that open and close a link

A link is opened by a tag with an equals sign, behind which its target stands, and closed by a tag
that names it again. Open tags are closed innermost first, so that the closing tag always finds the
link that was opened last (`openAfter?_linkEnd`). A link may also stay open: its target is one word
of a style, since there are no blanks in it (`canStay_link`).
-/

namespace Organizer

open Text

namespace Markup

variable {word target : List Char} {openTags : List OpenTag}

/-! ### Words of a style -/

theorem blankWords_append {a b : List Char}
    (h : ∀ c ∈ a.getLast?, ∀ d ∈ b.head?, isBlank c ≠ isBlank d) :
    Style.blankWords (a ++ b) = Style.blankWords a ++ Style.blankWords b := by
  rw [Style.blankWords, List.splitBy_append, List.filter_append]
  · rfl
  · intro c hc d hd
    exact beq_false_of_ne (h c hc d hd)

/-- A word without blanks is the only word of itself. -/
theorem blankWords_of_noBlank (hne : word ≠ []) (h : ∀ c ∈ word, isBlank c = false) :
    Style.blankWords word = [word] := by
  have hchain : word.IsChain fun c d ↦ (isBlank c == isBlank d) = true := by
    refine List.Pairwise.isChain (List.pairwise_of_forall_mem_list fun c hc d hd ↦ ?_)
    rw [h c hc, h d hd]
    rfl
  have hword : word.all isBlank = false := by
    obtain ⟨c, hc⟩ := List.exists_mem_of_ne_nil word hne
    exact List.all_eq_false.2 ⟨c, hc, by simp [h c hc]⟩
  rw [Style.blankWords, List.splitBy_of_isChain hne hchain, List.filter_cons, hword]
  rfl

/-- The words of the style that a link has. -/
theorem blankWords_link (h : ∀ c ∈ target, isBlank c = false) :
    Style.blankWords ("link".toList ++ ' ' :: target) =
      "link".toList :: if target = [] then [] else [target] := by
  have hblank : Style.blankWords [' '] = [] := by decide
  have hlink : Style.blankWords "link".toList = ["link".toList] := by decide
  have htarget : Style.blankWords (' ' :: target) = Style.blankWords target := by
    rw [← List.singleton_append, blankWords_append, hblank, List.nil_append]
    intro c hc d hd
    obtain rfl : c = ' ' := by simpa using hc.symm
    rw [h d (List.mem_of_mem_head? hd)]
    decide
  have hgap : ∀ c ∈ "link".toList.getLast?, ∀ d ∈ (' ' :: target).head?,
      isBlank c ≠ isBlank d := by
    intro c hc d hd
    obtain rfl : c = 'k' := by simpa using hc.symm
    obtain rfl : d = ' ' := by simpa using hd.symm
    decide
  rw [blankWords_append hgap, hlink, htarget]
  split
  · rename_i hempty
    rw [hempty]
    rfl
  · rename_i hne
    rw [blankWords_of_noBlank hne h]
    rfl

/-- The word for a link takes the next word as its address. -/
theorem add_link (style : Style) (words : List String) :
    style.add ("link" :: words) =
      match words with
      | [] => .error .foreign
      | address :: words => ({ style with address := some address }).add words := by
  have hlower : lower "link" = "link" := by decide +kernel
  cases words <;>
  · rw [Style.add.eq_def]
    dsimp only
    rw [hlower, if_neg (by decide), if_neg (by decide), if_pos rfl]

/-- A link can be left open, whatever it points to, if there is no blank in that. -/
theorem canStay_link (h : ∀ c ∈ target, isBlank c = false) :
    OpenTag.canStay ⟨"link", some target⟩ = true := by
  have hdescription : OpenTag.description ⟨"link", some target⟩ = "link".toList ++ ' ' :: target :=
    rfl
  have hstyle : Style.ofText ("link".toList ++ ' ' :: target) ≠ .error .unreadable := by
    rw [Style.ofText, blankWords_link h, List.map_cons, String.ofList_toList, add_link]
    split
    · exact fun heq ↦ by cases heq
    · by_cases hempty : target = []
      · rw [if_pos hempty, List.map_nil]
        exact fun heq ↦ by cases heq
      · rw [if_neg hempty, List.map_cons, List.map_nil]
        dsimp only
        rw [Style.add]
        exact fun heq ↦ by cases heq
  rw [OpenTag.canStay, hdescription, normalForm?.eq_def]
  cases hresult : Style.ofText ("link".toList ++ ' ' :: target) with
  | ok style => rfl
  | error fault =>
    cases fault with
    | foreign => rfl
    | unreadable => exact absurd hresult hstyle

/-! ### The tags -/

/-- What stands in the tag that opens a link. -/
def linkBody (target : List Char) : List Char := "link=".toList ++ target

/-- What stands in the tag that closes a link. -/
def linkEnd : List Char := "/link".toList

theorem isTag_linkBody (h : ∀ c ∈ target, isBracket c = false) : IsTag (linkBody target) where
  starts := rfl
  noBracket c hc := by
    rcases List.mem_append.1 hc with hc | hc
    · exact (by decide : IsTag "link=".toList).noBracket c hc
    · exact h c hc

theorem isTag_linkEnd : IsTag linkEnd := by decide

theorem normalForm?_link : normalForm? "link".toList = some "link" := by decide +kernel

/-- The tag in front of an address opens a link. -/
theorem openAfter?_linkBody (openTags : List OpenTag) (target : List Char) :
    openAfter? openTags (linkBody target) = some (⟨"link", some target⟩ :: openTags) := by
  have hname : nameOf (linkBody target) = "link".toList := rfl
  have hparameters : parametersOf (linkBody target) = some target := rfl
  rw [openAfter?.eq_def, hname]
  show ((normalForm? "link".toList).bind fun name ↦
    some (OpenTag.mk name (parametersOf (linkBody target)) :: openTags)) = _
  rw [normalForm?_link, hparameters, Option.bind_some]

/-- The tag behind an address closes the link. -/
theorem openAfter?_linkEnd (h : ∀ c ∈ target, isBlank c = false) (openTags : List OpenTag) :
    openAfter? (⟨"link", some target⟩ :: openTags) linkEnd = some openTags := by
  have hname : nameOf linkEnd = '/' :: "link".toList := rfl
  have htrim : trim "link".toList = "link".toList := by decide
  have hclose : OpenTag.canClose ⟨"link", some target⟩ = true := by
    have hevent : OpenTag.isEvent ⟨"link", some target⟩ = false :=
      (by decide : ("link".toList.head? == some '@') = false)
    rw [OpenTag.canClose, hevent, if_neg Bool.false_ne_true, canStay_link h]
  rw [openAfter?.eq_def, hname]
  show (if (trim "link".toList).isEmpty = true then close? (⟨"link", some target⟩, openTags)
    else (normalForm? (trim "link".toList)).bind fun name ↦
      (takeTag? name (⟨"link", some target⟩ :: openTags)).bind close?) = _
  rw [htrim, if_neg (by decide), normalForm?_link, Option.bind_some, takeTag?, if_pos rfl,
    Option.bind_some, close?, if_pos hclose]

end Markup

/-! ### What a link points to -/

namespace Links

/-- A percent-encoded address has neither brackets nor blanks. -/
theorem noBracket_percentEncode {address : String} {c : Char}
    (hc : c ∈ percentEncode kept address) : Markup.isBracket c = false ∧ isBlank c = false := by
  obtain ⟨b, -, hc⟩ := List.mem_flatMap.1 hc
  have hall : ∀ n < 256, (percentByte kept (UInt8.ofNat n)).all
      (fun c ↦ !Markup.isBracket c && !isBlank c) = true := by decide +kernel
  have h := hall b.toNat b.toNat_lt
  rw [UInt8.ofNat_toNat] at h
  simpa using List.all_eq_true.1 h c hc

end Links

end Organizer
