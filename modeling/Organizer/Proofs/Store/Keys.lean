import Organizer.Proofs.Store.Confining
import Organizer.Proofs.Store.Holding

/-!
# The keys of a store

A store whose keys are own keys, and whose calendar index lists no other ones, stays so as long as
nothing is written under another key (`confined_holdsOnly`), and when it is opened again
(`HoldsOnly.reopen`). Since a file can only be written as a whole, what is found in it are the keys
that the mapping had at that time.
-/

namespace Organizer.Store

open Organizer.Action Json

variable {own : Scalar → Bool} {s : Store} {key : Scalar} {records : List Json} {entries : Fields}

/-- The keys of the mapping are own keys, and so is what its index lists. -/
structure Only (own : Scalar → Bool) (entries : Fields) : Prop where
  nodup : entries.keys.Nodup
  keys : ∀ k ∈ entries.keys, own k = true
  listing : ∀ {records}, entries.get? indexKey = some (.arr records) → Listing own records

/-- The mapping has own keys, and so has the one that is found if the store is opened again. -/
structure HoldsOnly (own : Scalar → Bool) (s : Store) : Prop where
  only : Only own s.entries
  onDisk : ∀ {entries}, s.onDisk = .ok entries → Only own entries

theorem Only.set (h : Only own entries) (hkey : own key = true)
    (hrecords : key = indexKey → Listing own records) :
    Only own (entries.set key (.arr records)) where
  nodup := Fields.nodup_keys_set h.nodup key _
  keys k hk := by
    rw [Fields.keys_set] at hk
    split at hk
    · exact h.keys k hk
    · rcases List.mem_append.1 hk with hk | hk
      · exact h.keys k hk
      · exact List.mem_singleton.1 hk ▸ hkey
  listing hget := by
    by_cases heq : indexKey = key
    · rw [← heq, Fields.get?_set_self] at hget
      cases hget
      exact hrecords heq.symm
    · rw [Fields.get?_set_of_ne _ _ heq] at hget
      exact h.listing hget

/-- What is listed is listed again by the records that a file gives back. -/
theorem Listing.reread (h : Listing own records) : Listing own (rereadItems records) := by
  induction records with
  | nil => exact h
  | cons r rs ih =>
    intro k hk
    rcases List.mem_cons.1 hk with hk | hk
    · cases r with
      | scalar x =>
        cases hk
        exact h k List.mem_cons_self
      | arr | obj => cases hk
    · exact ih (fun k hk ↦ h k (List.mem_cons_of_mem _ hk)) k hk

theorem Only.reread (h : Only own entries) (hspelled : ∀ k, own k = true → k.IsSpelled) :
    Only own (rereadEntries entries) := by
  rw [rereadEntries_eq_map (fun k hk ↦ hspelled k (h.keys k hk)) h.nodup]
  refine ⟨?_, ?_, fun {records} hget ↦ ?_⟩
  · rw [Fields.keys_map]
    exact h.nodup
  · rw [Fields.keys_map]
    exact h.keys
  · rw [Fields.get?_map] at hget
    obtain ⟨v, hv, heq⟩ := Option.map_eq_some_iff.1 hget
    cases v with
    | arr rs =>
      cases heq
      exact (h.listing hv).reread
    | scalar | obj => cases heq

theorem Only.listed (h : Only own s.entries) (hlist : s.list indexKey = .ok records) :
    Listing own records := by
  rw [list] at hlist
  split at hlist
  · cases hlist
    exact fun _ hk ↦ absurd hk List.not_mem_nil
  · rename_i hget
    split at hlist
    · cases hlist
    · split at hlist <;> cases hlist
      · exact h.listing hget
      · exact fun _ hk ↦ absurd hk List.not_mem_nil

/-- **A write under an own key** leaves only own keys, in the mapping and in the file. -/
theorem preserves_put_holdsOnly (hspelled : ∀ k, own k = true → k.IsSpelled)
    (hkey : own key = true) (hrecords : key = indexKey → Listing own records) :
    Preserves (HoldsOnly own) (put key records) := by
  intro s hs
  have hset : Only own (s.assign key records).entries := hs.only.set hkey hrecords
  refine ⟨?_, .anything _⟩
  rw [perform_put]
  split
  · exact hs
  · rw [perform_flush]
    split
    · rename_i hsave
      refine ⟨by rwa [flushed_entries], fun hdisk ↦ ?_⟩
      rw [onDisk_of_inStep (inStep_flushed _) ((canSave_flushed _).trans hsave), flushed_entries]
        at hdisk
      cases hdisk
      split
      · exact hset
      · exact hset.reread hspelled
    · rename_i hsave
      have hfile : s.backing ≠ .memory := by
        intro hmemory
        simp [canSave, assign, hmemory] at hsave
      exact ⟨hset, fun hdisk ↦ hs.onDisk (onDisk_assign hfile key records ▸ hdisk)⟩

/-- **Operations under own keys leave only own keys**, if the index is one. -/
theorem confined_holdsOnly (hspelled : ∀ k, own k = true → k.IsSpelled)
    (hindex : own indexKey = true) : Confined own fun s t ↦ s = t ∧ HoldsOnly own s where
  list h _ _ := by rw [h.1]
  put hkey hrecords := .of_preserves (preserves_put_holdsOnly hspelled hkey hrecords)
  index _ _ := hindex
  listed h _ _ hlist := h.2.only.listed hlist

theorem HoldsOnly.reopen (h : HoldsOnly own s) {entries : Fields}
    (hdisk : s.onDisk = .ok entries) (hhas : (entries.get? indexKey).isSome) :
    ∃ t, s.reopen = .ok t ∧ HoldsOnly own t := by
  obtain ⟨t, ht, rfl, hdisk', -⟩ := reopen_of_onDisk hdisk hhas
  have honly := h.onDisk hdisk
  exact ⟨t, ht, honly, fun heq ↦ Except.ok.inj (hdisk'.symm.trans heq) ▸ honly⟩

theorem Opens.holdsOnly (h : Opens [] s) (hindex : own indexKey = true) : HoldsOnly own s := by
  obtain ⟨hmapping, hdisk, -⟩ := h.begins
  have honly : Only own s.entries := by
    rw [hmapping]
    refine ⟨List.nodup_singleton _, fun k hk ↦ List.mem_singleton.1 hk ▸ hindex, fun hget ↦ ?_⟩
    rw [Fields.get?_cons, if_pos rfl] at hget
    cases hget
    exact fun _ hk ↦ absurd hk List.not_mem_nil
  exact ⟨honly, fun heq ↦ Except.ok.inj (hdisk.symm.trans heq) ▸ honly⟩

end Organizer.Store
