import Mathlib.Data.List.Induction
import Mathlib.Data.List.Nodup
import Organizer.Json.Basic

/-!
# Fields of objects

An object keeps its fields in order, and no name of a well made object stands twice. What is set
keeps both: a name that is there keeps its place, and a new one comes last.
-/

namespace Organizer.Fields

/-! ### Looking up -/

theorem mem_of_get? {fs : Fields} {key : Scalar} {v : Json} (h : fs.get? key = some v) :
    (key, v) ∈ fs := by
  induction fs with
  | nil => exact absurd h (by simp)
  | cons f fs ih =>
    obtain ⟨k, w⟩ := f
    rw [get?_cons] at h
    split at h
    · cases h
      subst key
      exact List.mem_cons_self
    · exact List.mem_cons_of_mem _ (ih h)

theorem get?_of_mem {fs : Fields} (h : fs.keys.Nodup) {key : Scalar} {v : Json}
    (hmem : (key, v) ∈ fs) : fs.get? key = some v := by
  induction fs with
  | nil => exact absurd hmem List.not_mem_nil
  | cons f fs ih =>
    obtain ⟨k, w⟩ := f
    obtain ⟨hnot, hnodup⟩ := List.nodup_cons.1 h
    rw [get?_cons]
    rcases List.mem_cons.1 hmem with heq | hmem
    · cases heq
      rw [if_pos rfl]
    · have hne : key ≠ k := fun heq ↦ hnot (heq ▸ (List.mem_map_of_mem hmem : key ∈ keys fs))
      rw [if_neg hne]
      exact ih hnodup hmem

theorem mem_keys_of_get? {fs : Fields} {key : Scalar} {v : Json} (h : fs.get? key = some v) :
    key ∈ fs.keys :=
  List.mem_map_of_mem (mem_of_get? h)

theorem get?_map (fs : Fields) (g : Json → Json) (key : Scalar) :
    get? (fs.map fun f ↦ (f.1, g f.2)) key = (fs.get? key).map g := by
  induction fs with
  | nil => rfl
  | cons f fs ih =>
    obtain ⟨k, v⟩ := f
    rw [List.map_cons, get?_cons, get?_cons, ih]
    split <;> rfl

theorem keys_map (fs : Fields) (g : Json → Json) :
    keys (fs.map fun f ↦ (f.1, g f.2)) = fs.keys := by
  rw [keys, keys, List.map_map]
  rfl

/-! ### Setting -/

theorem set_of_not_mem {fs : Fields} {key : Scalar} (h : key ∉ fs.keys) (v : Json) :
    fs.set key v = fs ++ [(key, v)] := by
  induction fs with
  | nil => rfl
  | cons f fs ih =>
    obtain ⟨k, w⟩ := f
    obtain ⟨hne, hmem⟩ := not_or.1 (mt List.mem_cons.2 h)
    rw [set, if_neg (Ne.symm hne), ih hmem, List.cons_append]

/-- To give a field the value that it has changes nothing. -/
theorem set_of_get? {fs : Fields} {key : Scalar} {v : Json} (h : fs.get? key = some v) :
    fs.set key v = fs := by
  induction fs with
  | nil => exact absurd h (by simp)
  | cons f fs ih =>
    obtain ⟨k, w⟩ := f
    rw [get?_cons] at h
    rw [set]
    split at h
    · cases h
      rw [if_pos (Eq.symm ‹_›)]
    · rw [if_neg (Ne.symm ‹_›), ih h]

theorem nodup_keys_set {fs : Fields} (h : fs.keys.Nodup) (key : Scalar) (v : Json) :
    (fs.set key v).keys.Nodup := by
  rw [keys_set]
  split
  · exact h
  · rename_i hnot
    refine List.nodup_append.2 ⟨h, List.nodup_singleton key, ?_⟩
    intro k hk l hl heq
    exact hnot (List.mem_singleton.1 hl ▸ heq ▸ hk)

/-! ### One field after the other -/

theorem ofList_append_singleton (fs : List (Scalar × Json)) (f : Scalar × Json) :
    ofList (fs ++ [f]) = (ofList fs).set f.1 f.2 := by
  rw [ofList, List.foldl_append]
  rfl

/-- Fields with different names are set one behind the other. -/
theorem ofList_of_nodup {fs : List (Scalar × Json)} (h : (fs.map (·.1)).Nodup) :
    ofList fs = fs := by
  induction fs using List.reverseRecOn with
  | nil => rfl
  | append_singleton fs f ih =>
    rw [List.map_append, List.nodup_append] at h
    obtain ⟨hfs, -, hdisjoint⟩ := h
    have hnot : f.1 ∉ keys fs := fun hmem ↦ hdisjoint f.1 hmem f.1 (by simp) rfl
    rw [ofList_append_singleton, ih hfs, set_of_not_mem hnot]

end Organizer.Fields
