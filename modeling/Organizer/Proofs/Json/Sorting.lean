import Mathlib.Data.List.Induction
import Mathlib.Data.List.InsertIdx
import Mathlib.Data.List.Lex
import Mathlib.Data.List.Sort
import Mathlib.Data.String.Basic
import Organizer.Json.Order

/-!
# Sorting texts

`sort?` compares step by step and may find no order. For texts it always finds one, torn texts
included: `before?` is then a strict linear order, that of the lists of code points, and both ways
of sorting lead to the one sorted list (`sort?_texts`).

The proof looks at a text through its `rank`, the list of the numbers of its code points. A rank
determines the text, and the order of ranks is linear.
-/

namespace Organizer

open Text

/-! ### The order of code points -/

namespace Text.CodePoint

/-- No character has the number of a lone half. -/
theorem toNat_injective : Function.Injective toNat := by
  have hapart (c : Char) (n : Fin 2048) : c.toNat ≠ 0xD800 + n := by
    have hc : c.toNat < 0xD800 ∨ 0xDFFF < c.toNat ∧ c.toNat < 0x110000 := c.valid
    omega
  intro p q h
  cases p with
  | char c =>
    cases q with
    | char d => exact congrArg char (Char.toNat_inj.1 h)
    | half n => exact absurd h (hapart c n)
  | half m =>
    cases q with
    | char d => exact absurd h.symm (hapart d m)
    | half n => exact congrArg half (Fin.ext (Nat.add_left_cancel h))

/-- The numbers of the code points. -/
def rank (ps : List CodePoint) : List ℕ := ps.map toNat

theorem rank_injective : Function.Injective rank := toNat_injective.list_map

/-- One list comes before another if its rank does. -/
theorem before_eq (ps qs : List CodePoint) : before ps qs = decide (rank ps < rank qs) := by
  induction ps generalizing qs with
  | nil => cases qs <;> simp [before, rank]
  | cons p ps ih =>
    cases qs with
    | nil => simp [before, rank]
    | cons q qs =>
      have hcons : rank (p :: ps) < rank (q :: qs) ↔
          p.toNat < q.toNat ∨ p.toNat = q.toNat ∧ rank ps < rank qs := List.cons_lt_cons_iff
      rw [before]
      by_cases hpq : p = q
      · subst hpq
        rw [if_pos rfl, ih]
        exact decide_eq_decide.2 (by rw [hcons]; simp)
      · have hne : p.toNat ≠ q.toNat := mt (@toNat_injective p q) hpq
        rw [if_neg hpq]
        exact decide_eq_decide.2 (by rw [hcons]; simp [hne])

/-- Characters are ordered as their code points are. -/
theorem rank_lt_rank_iff (cs ds : List Char) :
    rank (cs.map char) < rank (ds.map char) ↔ cs < ds := by
  induction cs generalizing ds with
  | nil => cases ds <;> simp [rank]
  | cons c cs ih =>
    cases ds with
    | nil => simp [rank]
    | cons d ds =>
      have hcons : rank ((c :: cs).map char) < rank ((d :: ds).map char) ↔
          c.toNat < d.toNat ∨ c.toNat = d.toNat ∧ rank (cs.map char) < rank (ds.map char) :=
        List.cons_lt_cons_iff
      rw [hcons, ih, List.cons_lt_cons_iff, Char.toNat_inj]
      rfl

end Text.CodePoint

/-! ### Texts as scalars -/

/-- What is undone item by item is undone for the list. -/
theorem eq_map_of_mapM {α β : Type} {f : α → Option β} {g : β → α}
    (hg : ∀ x y, f x = some y → x = g y) {xs : List α} {ys : List β} (h : xs.mapM f = some ys) :
    xs = ys.map g := by
  induction xs generalizing ys with
  | nil =>
    cases h
    rfl
  | cons x xs ih =>
    rw [List.mapM_cons] at h
    obtain ⟨y, hy, h⟩ := Option.bind_eq_some_iff.1 h
    obtain ⟨ys, hys, h⟩ := Option.bind_eq_some_iff.1 h
    cases h
    rw [List.map_cons, ← hg x y hy, ← ih hys]

namespace Scalar

@[simp] theorem points?_ofPoints (ps : List CodePoint) : (ofPoints ps).points? = some ps := by
  rw [ofPoints]
  split
  · rename_i cs hcs
    have hchar : ∀ p c, CodePoint.char? p = some c → p = .char c := by
      intro p c h
      cases p <;> simp_all [CodePoint.char?]
    rw [points?, String.toList_ofList, ← eq_map_of_mapM hchar hcs]
  · rfl

theorem ofPoints_injective : Function.Injective ofPoints := fun ps qs h ↦
  Option.some.inj ((points?_ofPoints ps).symm.trans (h ▸ points?_ofPoints qs))

theorem number?_ofPoints (ps : List CodePoint) : (ofPoints ps).number? = none := by
  rw [ofPoints]
  split <;> rfl

/-- **Texts always have an order.** -/
theorem before?_of_points {a b : Scalar} {ps qs : List CodePoint} (ha : a.points? = some ps)
    (hb : b.points? = some qs) :
    a.before? b = some (decide (CodePoint.rank ps < CodePoint.rank qs)) := by
  unfold before?
  split
  · cases ha
    cases hb
    exact congrArg some (decide_eq_decide.2 (CodePoint.rank_lt_rank_iff _ _).symm)
  · rw [ha, hb, ← CodePoint.before_eq]

theorem before?_ofPoints (ps qs : List CodePoint) :
    (ofPoints ps).before? (ofPoints qs) = some (decide (CodePoint.rank ps < CodePoint.rank qs)) :=
  before?_of_points (points?_ofPoints ps) (points?_ofPoints qs)

theorem alike_ofPoints (ps : List CodePoint) (k : Scalar) :
    (ofPoints ps).alike k = decide (ofPoints ps = k) := by
  rw [alike, number?_ofPoints]
  exact beq_eq_decide ..

end Scalar

namespace Json

/-- A text as a value. -/
def spelled (ps : List CodePoint) : Json := .scalar (.ofPoints ps)

theorem spelled_injective : Function.Injective spelled := fun _ _ h ↦
  Scalar.ofPoints_injective (Json.scalar.inj h)

theorem map_scalar_ofPoints (pss : List (List CodePoint)) :
    (pss.map Scalar.ofPoints).map Json.scalar = pss.map spelled := by
  rw [List.map_map]
  rfl

theorem before?_spelled (ps qs : List CodePoint) :
    before? (spelled ps) (spelled qs) = some (decide (CodePoint.rank ps < CodePoint.rank qs)) :=
  Scalar.before?_ofPoints ps qs

/-- Texts in the order of their code points. -/
def Ascending (pss : List (List CodePoint)) : Prop :=
  pss.Pairwise fun ps qs ↦ CodePoint.rank ps ≤ CodePoint.rank qs

/-! ### The run at the front -/

/-- How a text follows the one before it in a run. -/
def Follows (falling : Bool) (ps qs : List CodePoint) : Prop :=
  decide (CodePoint.rank qs < CodePoint.rank ps) = falling

theorem Follows.trans {falling : Bool} {ps qs rs : List CodePoint} (h : Follows falling ps qs)
    (h' : Follows falling qs rs) : Follows falling ps rs := by
  cases falling with
  | false =>
    have hle := not_lt.1 (of_decide_eq_false h)
    have hle' := not_lt.1 (of_decide_eq_false h')
    exact decide_eq_false (not_lt.2 (hle.trans hle'))
  | true =>
    have hlt : CodePoint.rank qs < CodePoint.rank ps := of_decide_eq_true h
    have hlt' : CodePoint.rank rs < CodePoint.rank qs := of_decide_eq_true h'
    exact decide_eq_true (hlt'.trans hlt)

theorem takeRun?_spelled (falling : Bool) (ps : List CodePoint) (pss : List (List CodePoint)) :
    ∃ run rest, takeRun? falling (spelled ps) (pss.map spelled) =
        some (run.map spelled, rest.map spelled) ∧
      run ++ rest = pss ∧ (ps :: run).Pairwise (Follows falling) := by
  induction pss generalizing ps with
  | nil => exact ⟨[], [], rfl, rfl, List.pairwise_singleton _ _⟩
  | cons qs pss ih =>
    rw [List.map_cons, takeRun?, before?_spelled]
    by_cases h : Follows falling ps qs
    · obtain ⟨run, rest, htake, happend, hrun⟩ := ih qs
      refine ⟨qs :: run, rest, ?_, by rw [List.cons_append, happend], ?_⟩
      · have hbeq : (decide (CodePoint.rank qs < CodePoint.rank ps) == falling) = true :=
          beq_iff_eq.2 h
        simp only [bind, Option.bind, hbeq, if_true, htake, pure, List.map_cons]
      · refine List.pairwise_cons.2 ⟨?_, hrun⟩
        intro rs hrs
        rcases List.mem_cons.1 hrs with rfl | hrs
        · exact h
        · exact h.trans ((List.pairwise_cons.1 hrun).1 rs hrs)
    · refine ⟨[], qs :: pss, ?_, rfl, List.pairwise_singleton _ _⟩
      have hbeq : (decide (CodePoint.rank qs < CodePoint.rank ps) == falling) = false :=
        beq_eq_false_iff_ne.2 h
      simp only [bind, Option.bind, hbeq, Bool.false_eq_true, if_false, pure, List.map_nil,
        List.map_cons]

/-- The first run of texts is turned so that it ascends. -/
theorem firstRun?_spelled (pss : List (List CodePoint)) :
    ∃ run rest, firstRun? (pss.map spelled) = some (run.map spelled, rest.map spelled) ∧
      (run ++ rest).Perm pss ∧ Ascending run := by
  match pss with
  | [] => exact ⟨[], [], rfl, .refl _, .nil⟩
  | [ps] => exact ⟨[ps], [], rfl, .refl _, List.pairwise_singleton _ _⟩
  | ps :: qs :: pss =>
    obtain ⟨run, rest, htake, happend, hrun⟩ :=
      takeRun?_spelled (decide (CodePoint.rank qs < CodePoint.rank ps)) ps (qs :: pss)
    have hfirst : firstRun? ((ps :: qs :: pss).map spelled) =
        some (if decide (CodePoint.rank qs < CodePoint.rank ps) then
          ((ps :: run).map spelled).reverse else (ps :: run).map spelled, rest.map spelled) := by
      rw [List.map_cons, List.map_cons, firstRun?, before?_spelled]
      simp only [bind, Option.bind]
      rw [← List.map_cons, htake]
      rfl
    rw [hfirst]
    cases hfalling : decide (CodePoint.rank qs < CodePoint.rank ps) with
    | false =>
      rw [hfalling] at hrun
      refine ⟨ps :: run, rest, by simp, by rw [List.cons_append, happend], ?_⟩
      exact hrun.imp fun h ↦ not_lt.1 (of_decide_eq_false h)
    | true =>
      rw [hfalling] at hrun
      refine ⟨(ps :: run).reverse, rest, by simp, ?_, ?_⟩
      · exact ((List.reverse_perm _).append_right rest).trans (by rw [List.cons_append, happend])
      · exact List.pairwise_reverse.2 (hrun.imp fun h ↦ le_of_lt (of_decide_eq_true h))

/-! ### Insertion by halving -/

/-- A text can stand between two places of a sorted list: what is before the low place does not come
after it, and it comes before what is from the high place on. -/
structure Between (sorted : List (List CodePoint)) (ps : List CodePoint) (low high : ℕ) : Prop where
  le : low ≤ high
  le_length : high ≤ sorted.length
  below : ∀ qs ∈ sorted.take low, CodePoint.rank qs ≤ CodePoint.rank ps
  above : ∀ qs ∈ sorted.drop high, CodePoint.rank ps < CodePoint.rank qs

theorem insertIdx_eq_take_drop {α : Type} {xs : List α} {i : ℕ} (h : i ≤ xs.length) (x : α) :
    xs.insertIdx i x = xs.take i ++ x :: xs.drop i := by
  induction xs generalizing i with
  | nil =>
    rw [Nat.le_zero.1 h]
    rfl
  | cons y xs ih =>
    cases i with
    | zero => rfl
    | succ i =>
      rw [List.insertIdx_succ_cons, ih (Nat.le_of_succ_le_succ h)]
      rfl

section Insertion

variable {sorted : List (List CodePoint)} {ps : List CodePoint} {low high : ℕ}

theorem Between.zero_length (sorted : List (List CodePoint)) (ps : List CodePoint) :
    Between sorted ps 0 sorted.length :=
  ⟨Nat.zero_le _, le_refl _, by simp, by simp⟩

/-- In a sorted list, what stands at a place comes between what is before and what is behind. -/
theorem Ascending.around (h : Ascending sorted) {m : ℕ} (hm : m < sorted.length) :
    (∀ qs ∈ sorted.take m, CodePoint.rank qs ≤ CodePoint.rank sorted[m]) ∧
      ∀ qs ∈ sorted.drop (m + 1), CodePoint.rank sorted[m] ≤ CodePoint.rank qs := by
  have hsplit : (sorted.take m ++ sorted[m] :: sorted.drop (m + 1)).Pairwise
      fun ps qs ↦ CodePoint.rank ps ≤ CodePoint.rank qs := by
    rw [← List.drop_eq_getElem_cons hm, List.take_append_drop]
    exact h
  obtain ⟨-, hbehind, hacross⟩ := List.pairwise_append.1 hsplit
  exact ⟨fun qs hqs ↦ hacross qs hqs _ List.mem_cons_self, (List.pairwise_cons.1 hbehind).1⟩

theorem Between.lower (h : Ascending sorted) (hbetween : Between sorted ps low high) {m : ℕ}
    (hlow : low ≤ m) (hm : m < sorted.length)
    (hlt : CodePoint.rank ps < CodePoint.rank sorted[m]) : Between sorted ps low m := by
  refine ⟨hlow, le_of_lt hm, hbetween.below, ?_⟩
  intro qs hqs
  rw [List.drop_eq_getElem_cons hm] at hqs
  rcases List.mem_cons.1 hqs with rfl | hqs
  · exact hlt
  · exact hlt.trans_le ((h.around hm).2 qs hqs)

theorem Between.upper (h : Ascending sorted) (hbetween : Between sorted ps low high) {m : ℕ}
    (hhigh : m < high) (hm : m < sorted.length)
    (hle : CodePoint.rank sorted[m] ≤ CodePoint.rank ps) : Between sorted ps (m + 1) high := by
  refine ⟨hhigh, hbetween.le_length, ?_, hbetween.above⟩
  intro qs hqs
  rw [List.take_succ_eq_append_getElem hm] at hqs
  rcases List.mem_append.1 hqs with hqs | hqs
  · exact ((h.around hm).1 qs hqs).trans hle
  · rwa [List.mem_singleton.1 hqs]

/-- **Halving finds the place**, if the halvings suffice. -/
theorem placeIn?_spelled (h : Ascending sorted) (halvings : ℕ) (low high : ℕ)
    (hbetween : Between sorted ps low high) (hhalvings : high - low ≤ halvings) :
    ∃ i, placeIn? (sorted.map spelled) (spelled ps) halvings low high = some i ∧
      Between sorted ps i i := by
  induction halvings generalizing low high with
  | zero =>
    have heq : high = low := by
      have := hbetween.le
      omega
    exact ⟨low, rfl, heq ▸ hbetween⟩
  | succ halvings ih =>
    rw [placeIn?]
    split
    · rename_i hlt
      -- the middle is a place of the list, below the high one
      have hmiddle : low ≤ low + (high - low) / 2 ∧ low + (high - low) / 2 < high := by omega
      have hm := hmiddle.2.trans_le hbetween.le_length
      have hget : (sorted.map spelled)[low + (high - low) / 2]?.getD .null =
          spelled sorted[low + (high - low) / 2] := by
        rw [List.getElem?_map, List.getElem?_eq_getElem hm]
        rfl
      simp only [hget, before?_spelled, bind, Option.bind, decide_eq_true_eq]
      split
      · rename_i hcomes
        exact ih _ _ (hbetween.lower h hmiddle.1 hm hcomes) (by omega)
      · rename_i hcomes
        exact ih _ _ (hbetween.upper h hmiddle.2 hm (not_lt.1 hcomes)) (by omega)
    · have heq : high = low := by
        have := hbetween.le
        omega
      exact ⟨low, rfl, heq ▸ hbetween⟩

theorem insert?_spelled (h : Ascending sorted) (ps : List CodePoint) :
    ∃ inserted, insert? (sorted.map spelled) (spelled ps) = some (inserted.map spelled) ∧
      inserted.Perm (ps :: sorted) ∧ Ascending inserted := by
  obtain ⟨i, hplace, hbetween⟩ :=
    placeIn?_spelled h sorted.length 0 sorted.length (.zero_length sorted ps) (Nat.sub_le _ _)
  refine ⟨sorted.insertIdx i ps, ?_, List.perm_insertIdx ps sorted hbetween.le_length, ?_⟩
  · rw [insert?, List.length_map, hplace, List.map_insertIdx]
    rfl
  · have hsplit : (sorted.take i ++ sorted.drop i).Pairwise
        fun ps qs ↦ CodePoint.rank ps ≤ CodePoint.rank qs := by
      rw [List.take_append_drop]
      exact h
    obtain ⟨hbefore, hbehind, hacross⟩ := List.pairwise_append.1 hsplit
    rw [Ascending, insertIdx_eq_take_drop hbetween.le_length]
    refine List.pairwise_append.2 ⟨hbefore, List.pairwise_cons.2 ⟨?_, hbehind⟩, ?_⟩
    · exact fun qs hqs ↦ le_of_lt (hbetween.above qs hqs)
    · intro qs hqs rs hrs
      rcases List.mem_cons.1 hrs with rfl | hrs
      · exact hbetween.below qs hqs
      · exact hacross qs hqs rs hrs

end Insertion

/-! ### Sorting -/

theorem foldlM_insert?_spelled {sorted : List (List CodePoint)} (h : Ascending sorted)
    (rest : List (List CodePoint)) :
    ∃ result, (rest.map spelled).foldlM insert? (sorted.map spelled) =
        some (result.map spelled) ∧
      result.Perm (sorted ++ rest) ∧ Ascending result := by
  induction rest generalizing sorted with
  | nil => exact ⟨sorted, rfl, by rw [List.append_nil], h⟩
  | cons ps rest ih =>
    obtain ⟨inserted, hinsert, hperm, hinserted⟩ := insert?_spelled h ps
    obtain ⟨result, hresult, hperm', hsorted⟩ := ih hinserted
    refine ⟨result, ?_, hperm'.trans ?_, hsorted⟩
    · rw [List.map_cons, List.foldlM_cons, hinsert]
      exact hresult
    · exact (hperm.append_right rest).trans List.perm_middle.symm

/-- The code points of a text. -/
def pointsOf (s : String) : List CodePoint := s.toList.map .char

theorem map_spelled_pointsOf (ss : List String) : (ss.map pointsOf).map spelled = ss.map .str := by
  rw [List.map_map]
  refine List.map_congr_left fun s _ ↦ ?_
  show Json.scalar (.ofPoints (s.toList.map .char)) = .str s
  rw [Scalar.ofPoints_map_char, String.ofList_toList]

theorem rank_pointsOf_le {s t : String} (h : s ≤ t) :
    CodePoint.rank (pointsOf s) ≤ CodePoint.rank (pointsOf t) := by
  refine not_lt.1 ?_
  intro hlt
  exact not_lt.2 h (String.lt_iff_toList_lt.2 ((CodePoint.rank_lt_rank_iff _ _).1 hlt))

theorem pairwise_sortTexts (ss : List String) : (sortTexts ss).Pairwise (· ≤ ·) := by
  have hsorted : (sortTexts ss).Pairwise fun a b ↦ decide (a ≤ b) = true :=
    List.pairwise_mergeSort
      (fun _ _ _ hab hbc ↦ decide_eq_true ((of_decide_eq_true hab).trans (of_decide_eq_true hbc)))
      (fun a b ↦ by simpa using le_total a b) ss
  exact hsorted.imp of_decide_eq_true

theorem eq_str_of_asText? {x : Json} {s : String} (h : x.asText? = some s) : x = .str s := by
  cases x with
  | scalar k => cases k <;> simp_all [asText?]
  | arr | obj => exact absurd h (by simp [asText?])

/-- **Texts can be sorted**, in whichever way it is done. -/
theorem sort?_spelled (pss : List (List CodePoint)) :
    ∃ sorted, sort? (pss.map spelled) = some (sorted.map spelled) ∧ sorted.Perm pss ∧
      Ascending sorted := by
  rw [sort?]
  -- if no text is torn they are merged, else they are compared step by step
  split
  · rename_i ss hss
    have hpss : pss = ss.map pointsOf := by
      refine List.map_injective_iff.2 spelled_injective ?_
      rw [map_spelled_pointsOf]
      exact eq_map_of_mapM (fun _ _ ↦ eq_str_of_asText?) hss
    refine ⟨(sortTexts ss).map pointsOf, by rw [map_spelled_pointsOf], ?_, ?_⟩
    · rw [hpss]
      exact (List.mergeSort_perm ss _).map pointsOf
    · exact List.pairwise_map.2 ((pairwise_sortTexts ss).imp fun h ↦ rank_pointsOf_le h)
  · obtain ⟨run, rest, hrun, hperm, hascending⟩ := firstRun?_spelled pss
    obtain ⟨sorted, hfold, hperm', hsorted⟩ := foldlM_insert?_spelled hascending rest
    refine ⟨sorted, ?_, hperm'.trans hperm, hsorted⟩
    rw [sortBySteps?, hrun]
    exact hfold

/-- There is only one way in which texts ascend. -/
theorem Ascending.eq_of_perm {pss qss : List (List CodePoint)} (h : Ascending pss)
    (h' : Ascending qss) (hperm : pss.Perm qss) : pss = qss :=
  hperm.eq_of_pairwise
    (fun _ _ _ _ hle hle' ↦ CodePoint.rank_injective (le_antisymm hle hle')) h h'

theorem sort?_of_ascending {pss : List (List CodePoint)} (h : Ascending pss) :
    sort? (pss.map spelled) = some (pss.map spelled) := by
  obtain ⟨sorted, hsort, hperm, hsorted⟩ := sort?_spelled pss
  rw [hsort, hsorted.eq_of_perm h hperm]

/-- Different texts are in strict order. -/
theorem Ascending.strict {pss : List (List CodePoint)} (h : Ascending pss) (hnodup : pss.Nodup) :
    pss.Pairwise fun ps qs ↦ CodePoint.rank ps < CodePoint.rank qs :=
  (h.and hnodup).imp fun ⟨hle, hne⟩ ↦ lt_of_le_of_ne hle (mt (@CodePoint.rank_injective _ _) hne)

/-! ### Without repetitions -/

/-- Different texts are also different by value. -/
theorem distinct_spelled {pss : List (List CodePoint)} (h : pss.Nodup) :
    distinct (pss.map spelled) = pss.map spelled := by
  induction pss using List.reverseRecOn with
  | nil => rfl
  | append_singleton pss ps ih =>
    rw [List.nodup_append] at h
    obtain ⟨hpss, -, hdisjoint⟩ := h
    have hnew : (pss.map spelled).any (alike · (spelled ps)) = false := by
      refine List.any_eq_false.2 ?_
      intro x hx
      obtain ⟨qs, hqs, rfl⟩ := List.mem_map.1 hx
      show ¬(Scalar.ofPoints qs).alike (.ofPoints ps) = true
      rw [Scalar.alike_ofPoints, decide_eq_true_iff]
      exact fun heq ↦ hdisjoint qs hqs ps (by simp) (Scalar.ofPoints_injective heq)
    rw [distinct] at ih ⊢
    rw [List.map_append, List.foldl_append, ih hpss, List.map_singleton, List.foldl_cons, hnew]
    rfl

/-! ### What sorting makes up -/

section Members

variable {x y : Json} {xs ys : List Json}

theorem append_eq_of_takeRun? {falling : Bool} {run rest : List Json}
    (h : takeRun? falling x ys = some (run, rest)) : run ++ rest = ys := by
  induction ys generalizing x run with
  | nil =>
    cases h
    rfl
  | cons y ys ih =>
    rw [takeRun?] at h
    obtain ⟨b, -, h⟩ := Option.bind_eq_some_iff.1 h
    split at h
    · obtain ⟨⟨run', rest'⟩, htake, h⟩ := Option.bind_eq_some_iff.1 h
      cases h
      rw [List.cons_append, ih htake]
    · cases h
      rfl

theorem mem_of_firstRun? {run rest : List Json} (h : firstRun? xs = some (run, rest))
    (hy : y ∈ run ∨ y ∈ rest) : y ∈ xs := by
  match xs with
  | [] =>
    cases h
    exact hy.resolve_right List.not_mem_nil
  | [x] =>
    cases h
    exact hy.resolve_right List.not_mem_nil
  | x :: z :: xs =>
    rw [firstRun?] at h
    obtain ⟨falling, -, h⟩ := Option.bind_eq_some_iff.1 h
    obtain ⟨⟨run', rest'⟩, htake, h⟩ := Option.bind_eq_some_iff.1 h
    cases h
    rw [← append_eq_of_takeRun? htake]
    rcases hy with hy | hy
    · cases falling <;> simp at hy ⊢ <;> tauto
    · simp [hy]

theorem mem_of_insert? {sorted : List Json} (h : insert? sorted x = some ys) (hy : y ∈ ys) :
    y = x ∨ y ∈ sorted := by
  obtain ⟨i, -, h⟩ := Option.bind_eq_some_iff.1 h
  cases h
  exact List.eq_or_mem_of_mem_insertIdx hy

theorem mem_of_foldlM_insert? {sorted : List Json} (h : xs.foldlM insert? sorted = some ys)
    (hy : y ∈ ys) : y ∈ sorted ∨ y ∈ xs := by
  induction xs generalizing sorted with
  | nil =>
    cases h
    exact .inl hy
  | cons x xs ih =>
    obtain ⟨inserted, hinsert, h⟩ := Option.bind_eq_some_iff.1 h
    rcases ih h with hmem | hmem
    · rcases mem_of_insert? hinsert hmem with rfl | hmem
      · exact .inr List.mem_cons_self
      · exact .inl hmem
    · exact .inr (List.mem_cons_of_mem _ hmem)

/-- Sorting makes nothing up, whatever values are sorted. -/
theorem mem_of_sort? (h : sort? xs = some ys) (hy : y ∈ ys) : y ∈ xs := by
  rw [sort?] at h
  split at h
  · rename_i ss hss
    cases h
    rw [eq_map_of_mapM (fun _ _ ↦ eq_str_of_asText?) hss]
    exact ((List.mergeSort_perm ss _).map _).mem_iff.1 hy
  · obtain ⟨⟨run, rest⟩, hrun, h⟩ := Option.bind_eq_some_iff.1 h
    exact mem_of_firstRun? hrun (mem_of_foldlM_insert? h hy)

theorem mem_of_distinct (hy : y ∈ distinct xs) : y ∈ xs := by
  induction xs using List.reverseRecOn with
  | nil => exact hy
  | append_singleton xs x ih =>
    rw [distinct, List.foldl_append, List.foldl_cons, List.foldl_nil] at hy
    split at hy
    · exact List.mem_append_left _ (ih hy)
    · rcases List.mem_append.1 hy with hy | hy
      · exact List.mem_append_left _ (ih hy)
      · exact List.mem_append_right _ hy

end Members

end Json

end Organizer
