import Organizer.Proofs.Collection.LinkListing

/-!
# What a listing of links shows

A listing of links shows each name and address, up to backslashes. What becomes of those is said
here exactly (`Link.wording`), and so it is known which links appear as they are stored
(`Link.IsPlain`):

* a backslash before a bracket that opens no tag is left out, in names and in addresses;
* a single backslash at the end of a name stands twice, for it is protected against a tag, but no
  tag follows;
* the backslashes at the end of an address come to stand in front of the tag that closes the link.
  There a single one stands for itself, but of more of them only half are shown, and if their number
  is odd, the tag is shown instead of being read.

A listing departs from what is stored at the first of these places, and nothing behind it can make
up for that. Hence **a listing shows all its links as they are stored if and only if each of them is
plain** (`links_listed_as_stored`). The name of an emoji between colons counts as the text that
it is.
-/

namespace Organizer

open Organizer.Action Text Markup

namespace Link

/-- A link as it is stored. -/
def storedText (link : Link) : List Char :=
  link.name.toList ++ (" - ".toList ++ link.address.toList)

/-- **A link in which no backslash is changed**, neither in front of a bracket nor at an end. -/
structure IsPlain (link : Link) : Prop where
  name : hasLostSlash link.name.toList = false
  name_end : endsInSingleSlash link.name.toList = false
  address : hasLostSlash link.address.toList = false
  address_end : slashesAtEnd link.address.toList ≤ 1

instance (link : Link) : Decidable link.IsPlain :=
  decidable_of_iff (hasLostSlash link.name.toList = false ∧
      endsInSingleSlash link.name.toList = false ∧ hasLostSlash link.address.toList = false ∧
        slashesAtEnd link.address.toList ≤ 1)
    ⟨fun ⟨h₁, h₂, h₃, h₄⟩ ↦ ⟨h₁, h₂, h₃, h₄⟩, fun h ↦ ⟨h.1, h.2, h.3, h.4⟩⟩

/-- What is shown of backslashes at the end of an address. -/
def shownSlashes (n : ℕ) : List Char :=
  if n = 1 then ['\\']
  else List.replicate (n / 2) '\\' ++ if n % 2 = 1 then bracketed linkEnd else []

/-- What is shown of a link, said by its name and its address alone. -/
def wording (link : Link) : List Char :=
  withoutLostSlashes link.name.toList ++
    ((if endsInSingleSlash link.name.toList then ['\\'] else []) ++
      (" - ".toList ++ (withoutLostSlashes (beforeSlashes link.address.toList) ++
        shownSlashes (slashesAtEnd link.address.toList))))

theorem shownAddress_eq (link : Link) :
    link.shownAddress = withoutLostSlashes (beforeSlashes link.address.toList) ++
      shownSlashes (slashesAtEnd link.address.toList) := by
  rw [shownAddress, addressSegments, shown_scan_beforeSlashes, endSlashes, slashesAtEnd_escape,
    shownSlashes]
  by_cases h : slashesAtEnd link.address.toList = 1 <;> simp [h]

theorem shownText_eq_wording : shownText = wording := by
  funext link
  rw [shownText, display_eq, shownAddress_eq, List.append_assoc, wording]

theorem shownSlashes_of_le_one {n : ℕ} (h : n ≤ 1) : shownSlashes n = List.replicate n '\\' := by
  rcases Nat.le_one_iff_eq_zero_or_eq_one.1 h with rfl | rfl <;> rfl

/-- Of two or more backslashes fewer are shown. -/
theorem leadingSlashes_shownSlashes {n : ℕ} (h : 1 < n) {xs : List Char}
    (hxs : leadingSlashes xs = 0) : leadingSlashes (shownSlashes n ++ xs) = n / 2 := by
  have hrest : leadingSlashes ((if n % 2 = 1 then bracketed linkEnd else []) ++ xs) = 0 := by
    split
    · rfl
    · exact hxs
  rw [shownSlashes, if_neg h.ne', List.append_assoc, leadingSlashes_replicate, hrest, Nat.add_zero]

/-- A plain link appears as it is stored. -/
theorem IsPlain.wording {link : Link} (h : link.IsPlain) : link.wording = link.storedText := by
  rw [Link.wording, withoutLostSlashes_eq_self h.name, h.name_end, if_neg Bool.false_ne_true,
    List.nil_append,
    withoutLostSlashes_eq_self ((hasLostSlash_beforeSlashes _).trans h.address),
    shownSlashes_of_le_one h.address_end, beforeSlashes_append, storedText]

theorem leadingSlashes_lines (text : Link → List Char) (n : ℕ) (links : List Link) :
    leadingSlashes (lines text ['\n'] n links) = 0 := by
  cases links <;> rfl

/-- **The first link that is not plain makes a difference** that nothing behind it makes up for. -/
theorem isPlain_of_wording_append {link : Link} {xs ys : List Char}
    (hxs : leadingSlashes xs = 0) (h : link.wording ++ xs = link.storedText ++ ys) :
    link.IsPlain := by
  rw [wording, storedText] at h
  simp only [List.append_assoc] at h
  obtain ⟨hname, hname_end⟩ := withoutLostSlashes_append_eq_append h
  have hsingle : endsInSingleSlash link.name.toList = false := by
    rw [Bool.eq_false_iff]
    intro hsingle
    rw [if_pos hsingle] at hname_end
    exact absurd (List.head_eq_of_cons_eq hname_end) (by decide)
  rw [hsingle, if_neg Bool.false_ne_true, List.nil_append] at hname_end
  have hstored : link.address.toList ++ ys = beforeSlashes link.address.toList ++
      (List.replicate (slashesAtEnd link.address.toList) '\\' ++ ys) := by
    rw [← List.append_assoc, beforeSlashes_append]
  obtain ⟨haddress, hslashes⟩ := withoutLostSlashes_append_eq_append
    ((List.append_cancel_left hname_end).trans hstored)
  refine ⟨hname, hsingle, hasLostSlash_beforeSlashes _ ▸ haddress, ?_⟩
  by_contra hmany
  have hcount := congrArg leadingSlashes hslashes
  rw [leadingSlashes_shownSlashes (by omega) hxs, leadingSlashes_replicate] at hcount
  omega

/-- **A listing shows its links as they are stored if and only if all of them are plain.** -/
theorem lines_wording_eq_iff (gap : List Char) (n : ℕ) (links : List Link) :
    lines wording gap n links = lines storedText gap n links ↔
      ∀ link ∈ links, link.IsPlain := by
  induction links generalizing gap n with
  | nil => simp [lines]
  | cons link links ih =>
    rw [lines, lines, List.append_cancel_left_eq, List.forall_mem_cons, ← ih ['\n'] (n + 1)]
    constructor
    · intro h
      have hplain : link.IsPlain := isPlain_of_wording_append (leadingSlashes_lines _ _ _) h
      rw [hplain.wording] at h
      exact ⟨hplain, List.append_cancel_left h⟩
    · rintro ⟨hplain, hlines⟩
      rw [hplain.wording, hlines]

end Link

open Link

/-- **Links are listed as they are stored if and only if all of them are plain.** There is a line
for each link, in order, with its number. It shows the name and the address with every bracket and
every backslash, but for backslashes in front of a bracket that opens no tag, a single one at the
end of the name, and two or more at the end of the address. -/
theorem links_listed_as_stored (d : Desk) (records : List Json) (hne : records ≠ [])
    (hrecords : Links.collection.records d = .ok records)
    (haccepts : ∀ r ∈ records, Links.accepts r = true)
    (hwhole : ∀ r ∈ records, ∀ ps, Collection.field? "url" r ≠ some (.scalar (.torn ps))) :
    ∃ links response, records.map ofRecord? = links.map some ∧
      Links.collection.list d = .ok [response] ∧ response.markup = true ∧
      plain? response.text.toList = some (lines wording [] 1 links) ∧
      (plain? response.text.toList = some (lines storedText [] 1 links) ↔
        ∀ link ∈ links, link.IsPlain) := by
  have hlinks := map_ofRecord? fun r hr ↦ (ofRecord?_of_accepts (haccepts r hr)).resolve_right
    fun ⟨_, ps, htorn⟩ ↦ hwhole r hr ps htorn
  obtain ⟨response, hlist, hlists⟩ := exists_listsLinks hrecords hne hlinks
  have hplain := shownText_eq_wording ▸ hlists.plain
  refine ⟨_, response, hlinks, hlist, hlists.markup, hplain, ?_⟩
  rw [hplain, Option.some_inj]
  exact lines_wording_eq_iff [] 1 _

/-- Links with brackets and backslashes, of which none is changed. -/
def Links.slashed : List Json :=
  [.obj [("name", .str "a\\b [c] \\[/d] \\\\"), ("url", .str "http://x.com/[/b]\\")],
    .obj [("name", .str "[[e]"), ("url", .str "http://\\\\[link]")]]

/-- Brackets and backslashes of such links are shown. -/
theorem links_listed_as_stored_slashed :
    Links.slashed ≠ [] ∧
      Links.collection.records (Desk.withLinks Links.slashed) = .ok Links.slashed ∧
      (∀ r ∈ Links.slashed, Links.accepts r = true) ∧
      (∀ r ∈ Links.slashed, ∀ ps,
        Collection.field? "url" r ≠ some (.scalar (.torn ps))) ∧
      ∃ response, Links.collection.list (Desk.withLinks Links.slashed) = .ok [response] ∧
        plain? response.text.toList = some
          ("1. a\\b [c] \\[/d] \\\\ - http://x.com/[/b]\\\n" ++
            "2. [[e] - http://\\\\[link]").toList := by
  have hrecords : Links.collection.records (Desk.withLinks Links.slashed) = .ok Links.slashed := by
    decide +kernel
  have haccepts : ∀ r ∈ Links.slashed, Links.accepts r = true := by decide +kernel
  have hwhole : ∀ r ∈ Links.slashed, ∀ ps,
      Collection.field? "url" r ≠ some (.scalar (.torn ps)) := by
    intro r hr ps
    rcases List.mem_pair.1 hr with rfl | rfl <;> exact fun heq ↦ by cases heq
  obtain ⟨links, response, hlinks, hlist, -, -, hplain⟩ :=
    links_listed_as_stored (Desk.withLinks Links.slashed) Links.slashed (by decide) hrecords
      haccepts hwhole
  have hknown : Links.slashed.map ofRecord? = [⟨"a\\b [c] \\[/d] \\\\", "http://x.com/[/b]\\"⟩,
      ⟨"[[e]", "http://\\\\[link]"⟩].map some := by decide +kernel
  obtain rfl := List.map_injective_iff.2 (fun _ _ ↦ Option.some.inj) (hlinks.symm.trans hknown)
  refine ⟨by decide, hrecords, haccepts, hwhole, response, hlist, ?_⟩
  rw [hplain.2 (by decide +kernel)]
  decide +kernel

/-- **Links are not always listed as they are stored**: a backslash at the end of a name stands
twice, and of three at the end of an address one is left, with the tag that was to close the
link. -/
theorem links_not_always_listed_as_stored :
    ¬ ∀ (d : Desk) (name address : String),
      Links.collection.records d =
        .ok [.obj [("name", .str name), ("url", .str address)]] →
      ∀ response, Links.collection.list d = .ok [response] →
        plain? response.text.toList = some (lines storedText [] 1 [⟨name, address⟩]) := by
  intro h
  let records : List Json := [.obj [("name", .str "a\\"), ("url", .str "http://x.com/\\\\\\")]]
  have hrecords : Links.collection.records (Desk.withLinks records) = .ok records := by
    decide +kernel
  have hlinks : records.map ofRecord? = [⟨"a\\", "http://x.com/\\\\\\"⟩].map some := by
    decide +kernel
  obtain ⟨response, hlist, hlists⟩ := exists_listsLinks hrecords (by decide) hlinks
  have hstored := h _ _ _ hrecords response hlist
  rw [hlists.plain, shownText_eq_wording, Option.some_inj, lines_wording_eq_iff] at hstored
  exact absurd hstored (by decide +kernel)

end Organizer
