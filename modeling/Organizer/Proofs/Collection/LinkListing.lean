import Organizer.Proofs.Action.Performing
import Organizer.Proofs.Collection.Numbering
import Organizer.Proofs.Markup.LinkTag

/-!
# The listing of links

A link is listed with its name and, between two tags, its address. The name is followed by a blank
and a dash, and the address by the tag that closes the link; both go on, after their own brackets,
with an opening one, so that nothing in front of it can become part of a tag
(`Link.scan_markup_append`). What the link points to stands inside a tag, percent-encoded, and has
no brackets.

Only backslashes at the end of an address reach further, for they come to stand in front of a tag.
A protected address does not end in a single one, but it may end in three: then the tag behind it is
shown, and the link stays open to the end of the listing, which is no error
(`Link.plainFrom?_end`).

So links are listed safely (`links_listed_safely`), line by line and hence all together
(`Link.scan_lines`, `Link.plainFrom?_lines`).
-/

namespace Organizer

open Organizer.Action Text Markup

/-- A link as a listing takes it: its name as it is shown, and its address. -/
structure Link where
  name : String
  address : String
  deriving DecidableEq

namespace Link

variable {openTags : List OpenTag}

/-! ### A single link -/

/-- What the link points to. -/
def target (link : Link) : List Char := percentEncode Links.kept link.address

/-- The markup of a link. -/
def markup (link : Link) : List Char :=
  escape link.name.toList ++ (" - ".toList ++ (bracketed (linkBody link.target) ++
    (escape link.address.toList ++ bracketed linkEnd)))

/-- The pieces of the name. -/
def nameSegments (link : Link) : List Segment := scan (escape link.name.toList)

/-- The pieces of the address. -/
def addressSegments (link : Link) : List Segment :=
  scan (beforeSlashes (escape link.address.toList))

/-- The backslashes at the end of the address, which come to stand in front of a tag. -/
def endSlashes (link : Link) : ℕ := slashesAtEnd (escape link.address.toList)

/-- The pieces of a link: its name, and its address between two tags. -/
def segments (link : Link) : List Segment :=
  link.nameSegments ++ (" - ".toList.map .char ++ .tag 0 (linkBody link.target) ::
    (link.addressSegments ++ [.tag link.endSlashes linkEnd]))

theorem isTag_target (link : Link) : IsTag (linkBody link.target) :=
  isTag_linkBody fun _ hc ↦ (Links.noBracket_percentEncode hc).1

theorem noBlank_target (link : Link) : ∀ c ∈ link.target, isBlank c = false :=
  fun _ hc ↦ (Links.noBracket_percentEncode hc).2

/-- What follows a name does not close a tag. -/
theorem find?_afterName (cs rest : List Char) :
    (" - ".toList ++ (bracketed (linkBody cs) ++ rest)).find? isBracket ≠ some ']' :=
  (by decide : some '[' ≠ some ']')

theorem bracketed_eq_source (body : List Char) : bracketed body = (Segment.tag 0 body).source := rfl

/-- **Only the two tags of a link are active.** -/
theorem scan_markup_append (link : Link) (rest : List Char) :
    scan (link.markup ++ rest) = link.segments ++ scan rest := by
  simp only [markup, segments, List.append_assoc]
  rw [scan_escape_append rfl fun _ ↦ find?_afterName _ _,
    scan_literal_append (by decide) (by decide), bracketed_eq_source (linkBody _),
    scan_tag 0 link.isTag_target, scan_escape_tag isTag_linkEnd]
  simp [nameSegments, addressSegments, endSlashes]

/-- The address as it is shown. If an odd number of backslashes comes to stand in front of the tag
that closes the link, the tag is shown. -/
def shownAddress (link : Link) : List Char :=
  shown link.addressSegments ++ (List.replicate (link.endSlashes / 2) '\\' ++
    if link.endSlashes % 2 = 1 then bracketed linkEnd else [])

/-- A link as it is shown. -/
def shownText (link : Link) : List Char :=
  display link.name.toList ++ (" - ".toList ++ link.shownAddress)

/-- The tags can be left open. -/
def CanStay (openTags : List OpenTag) : Prop := ∀ t ∈ openTags, t.canStay = true

/-- What the end of a link shows: the tag is closed there, or it is shown and the link stays
open. -/
theorem plainFrom?_end (h : CanStay openTags) (link : Link) (following : List Segment) :
    ∃ openTags', CanStay openTags' ∧
      plainFrom? (⟨"link", some link.target⟩ :: openTags)
          (.tag link.endSlashes linkEnd :: following) =
        (plainFrom? openTags' following).map ((List.replicate (link.endSlashes / 2) '\\' ++
          if link.endSlashes % 2 = 1 then bracketed linkEnd else []) ++ ·) := by
  by_cases hodd : link.endSlashes % 2 = 1
  · have hstay : CanStay (⟨"link", some link.target⟩ :: openTags) :=
      List.forall_mem_cons.2 ⟨canStay_link link.noBlank_target, h⟩
    exact ⟨_, hstay, by rw [plainFrom?_tag_odd hodd, if_pos hodd]⟩
  · refine ⟨openTags, h, ?_⟩
    rw [plainFrom?_tag_even (by omega), openAfter?_linkEnd link.noBlank_target, Option.bind_some,
      if_neg hodd, List.append_nil]

/-- **A link shows its name and its address**, and the tag that it opens is closed, or it can be
left open. -/
theorem plainFrom?_markup (h : CanStay openTags) (link : Link) (rest : List Char) :
    ∃ openTags', CanStay openTags' ∧
      plainFrom? openTags (scan (link.markup ++ rest)) =
        (plainFrom? openTags' (scan rest)).map (link.shownText ++ ·) := by
  obtain ⟨openTags', hstay, hend⟩ := plainFrom?_end h link (scan rest)
  refine ⟨openTags', hstay, ?_⟩
  simp only [markup, List.append_assoc]
  rw [plainFrom?_escape_append rfl fun _ ↦ find?_afterName _ _,
    plainFrom?_literal (by decide) (by decide), bracketed_eq_source (linkBody _),
    scan_tag 0 link.isTag_target, plainFrom?_tag_even rfl, openAfter?_linkBody, Option.bind_some,
    scan_escape_tag isTag_linkEnd,
    plainFrom?_inert (fun _ ↦ isActive_of_mem_scan_beforeSlashes) fun _ ↦ rfl]
  rw [← endSlashes, hend]
  simp [Option.map_map, Function.comp_def, shownText, shownAddress, addressSegments]

/-! ### Many links -/

/-- Links below one another: each has its number, and a gap in front of it. -/
def lines (text : Link → List Char) : List Char → ℕ → List Link → List Char
  | _, _, [] => []
  | gap, n, link :: links =>
    gap ++ Collection.number n ++ (text link ++ lines text ['\n'] (n + 1) links)

theorem flatMap_numberedTexts (text : Link → List Char) (n : ℕ) (links : List Link) :
    ((Collection.numberedTexts n (links.map (String.ofList ∘ text))).flatMap fun s ↦
      "\n".toList ++ s.toList) = lines text ['\n'] n links := by
  induction links generalizing n with
  | nil => rfl
  | cons link links ih =>
    rw [List.map_cons, Collection.numberedTexts, List.flatMap_cons, ih, Collection.toList_number,
      lines]
    simp

theorem toList_joinLines (text : Link → List Char) (links : List Link) :
    (Collection.joinLines
      (Collection.numberedTexts 1 (links.map (String.ofList ∘ text)))).toList =
        lines text [] 1 links := by
  cases links with
  | nil => rfl
  | cons link links =>
    rw [List.map_cons, Collection.numberedTexts, Collection.joinLines,
      Collection.toList_intercalate_cons, flatMap_numberedTexts, Collection.toList_number, lines]
    simp

/-- The pieces of such lines. -/
def lineSegments : List Char → ℕ → List Link → List Segment
  | _, _, [] => []
  | gap, n, link :: links =>
    (gap ++ Collection.number n).map .char ++ (link.segments ++ lineSegments ['\n'] (n + 1) links)

variable {gap : List Char}

theorem scan_lines (hgap : '[' ∉ gap) (n : ℕ) (links : List Link) :
    scan (lines markup gap n links) = lineSegments gap n links := by
  induction links generalizing gap n with
  | nil => exact scan_nil
  | cons link links ih =>
    rw [lines, Collection.scan_number hgap, scan_markup_append, ih (by decide), lineSegments]

/-- **Links show their names and addresses**, one below the other. -/
theorem plainFrom?_lines (hgap : '[' ∉ gap) (h : CanStay openTags) (n : ℕ) (links : List Link) :
    plainFrom? openTags (scan (lines markup gap n links)) = some (lines shownText gap n links) := by
  induction links generalizing gap n openTags with
  | nil =>
    rw [lines, scan_nil, plainFrom?_nil, if_pos (List.all_eq_true.2 h)]
    rfl
  | cons link links ih =>
    obtain ⟨openTags', h', hlink⟩ :=
      plainFrom?_markup h link (lines markup ['\n'] (n + 1) links)
    rw [lines, Collection.plainFrom?_number hgap, hlink, ih (by decide) h', lines]
    rfl

/-! ### Safety -/

/-- **Nothing of a link is read as a tag but what is meant to be one.** -/
structure IsSafe (link : Link) : Prop where
  /-- The name falls into pieces of its own, of which none is an active tag. -/
  name_source : link.nameSegments.flatMap Segment.source = escape link.name.toList
  name_inactive : ∀ s ∈ link.nameSegments, s.isActive = false
  /-- So does the address, but for backslashes at its end. -/
  address_source : link.addressSegments.flatMap Segment.source ++
    List.replicate link.endSlashes '\\' = escape link.address.toList
  address_inactive : ∀ s ∈ link.addressSegments, s.isActive = false
  /-- The tag in front of the address opens a link to its encoded form. -/
  opens : ∀ openTags, openAfter? openTags (linkBody link.target) =
    some (⟨"link", some link.target⟩ :: openTags)
  /-- The name and the address are shown with all their characters in order, but for backslashes. -/
  name_shown : (display link.name.toList).filter (· != '\\') =
    link.name.toList.filter (· != '\\')
  address_shown : (shown link.addressSegments).filter (· != '\\') =
    link.address.toList.filter (· != '\\')

theorem isSafe (link : Link) : link.IsSafe where
  name_source := flatMap_source_scan _
  name_inactive _ := isActive_of_mem_scan_escape
  address_source := by
    rw [addressSegments, flatMap_source_scan, endSlashes, beforeSlashes_append]
  address_inactive _ := isActive_of_mem_scan_beforeSlashes
  opens openTags := openAfter?_linkBody openTags link.target
  name_shown := filter_display _
  address_shown := by
    have hsplit := congrArg (List.filter (· != '\\'))
      (beforeSlashes_append (escape link.address.toList))
    rw [List.filter_append, filter_slashes, List.append_nil, filter_escape] at hsplit
    rw [addressSegments, filter_shown fun _ ↦ isActive_of_mem_scan_beforeSlashes,
      flatMap_source_scan, hsplit]

/-! ### Records -/

/-- The link that a record stands for. A torn address has no encoding, and is none. -/
def ofRecord? (record : Json) : Option Link := do
  return ⟨← (Collection.field? "name" record).bind Json.shown?,
    ← (Collection.field? "url" record).bind Json.asText?⟩

theorem line_eq (record : Json) :
    Links.line record =
      match ofRecord? record with
      | some link => .ok (String.ofList link.markup)
      | none => .error .unexpected := by
  rw [Links.line, ofRecord?]
  cases (Collection.field? "name" record).bind Json.shown? with
  | none => rfl
  | some name =>
    cases (Collection.field? "url" record).bind Json.asText? with
    | none => rfl
    | some address => simp [markup, bracketed, linkBody, linkEnd, target]

theorem exists_field? {fs : Fields} {key : String} (h : Collection.hasText fs key = true) :
    ∃ x : Scalar, x.isText = true ∧ Collection.field? key (.obj fs) = some (.scalar x) := by
  rw [Collection.hasText] at h
  have hfield : Collection.field? key (.obj fs) = some ((fs.get? key).getD (.str "")) := rfl
  cases hget : fs.get? key with
  | none => simp [hget] at h
  | some v =>
    rw [hget] at h hfield
    cases v with
    | scalar x => exact ⟨x, h, hfield⟩
    | arr | obj => cases h

/-- An accepted record stands for a link, unless its address is torn. -/
theorem ofRecord?_of_accepts {record : Json} (h : Links.accepts record = true) :
    (∃ link, ofRecord? record = some link) ∨
      ofRecord? record = none ∧
        ∃ ps, Collection.field? "url" record = some (.scalar (.torn ps)) := by
  cases record with
  | scalar | arr => cases h
  | obj fs =>
    obtain ⟨hname, haddress⟩ := Bool.and_eq_true_iff.1 h
    obtain ⟨name, hname, hname'⟩ := exists_field? hname
    obtain ⟨address, haddress, haddress'⟩ := exists_field? haddress
    obtain ⟨text, htext⟩ : ∃ text, name.shown? = some text := by
      cases name <;> first | exact ⟨_, rfl⟩ | cases hname
    have hlink : ofRecord? (.obj fs) =
        (Json.scalar address).asText?.map fun address ↦ ⟨text, address⟩ := by
      rw [ofRecord?, hname', haddress']
      show (name.shown?.bind fun name ↦ (Json.scalar address).asText?.bind fun address ↦
        some (Link.mk name address)) = _
      rw [htext, Option.bind_some]
      cases (Json.scalar address).asText? <;> rfl
    cases address with
    | text address => exact .inl ⟨_, hlink⟩
    | torn ps => exact .inr ⟨hlink, ps, haddress'⟩
    | null | bool | int | double => cases haddress

/-- Records that all stand for links stand for a list of links. -/
theorem map_ofRecord? {records : List Json} (h : ∀ r ∈ records, ∃ link, ofRecord? r = some link) :
    records.map ofRecord? = (records.filterMap ofRecord?).map some := by
  induction records with
  | nil => rfl
  | cons r rs ih =>
    obtain ⟨⟨link, hlink⟩, hrs⟩ := List.forall_mem_cons.1 h
    rw [List.map_cons, hlink, List.filterMap_cons_some hlink, List.map_cons, ih hrs]

/-- The response is the listing of some links, and it shows them: its markup falls into their
pieces, what it denotes is their text, and this is presented but for control characters. -/
structure ListsLinks (links : List Link) (response : Response) : Prop where
  markup : response.markup = true
  /-- Only the tags of the links themselves are read as tags. -/
  segments : scan response.text.toList = lineSegments [] 1 links
  plain : plain? response.text.toList = some (lines shownText [] 1 links)
  presented : Console.present? response = some (Console.layOut (lines shownText [] 1 links))

/-- A listing fails if one of its lines does. -/
theorem numbered_eq_error {records : List Json} (h : ∃ r ∈ records, ofRecord? r = none) (n : ℕ) :
    Collection.numbered Links.line n records = .error .unexpected := by
  induction records generalizing n with
  | nil => simp at h
  | cons r rs ih =>
    rw [Collection.numbered, line_eq]
    cases hr : ofRecord? r with
    | none => rfl
    | some link =>
      have hrs : ∃ r ∈ rs, ofRecord? r = none := by simpa [hr] using h
      show (Collection.numbered Links.line (n + 1) rs >>= fun lines ↦ _) = _
      rw [ih hrs]
      rfl

end Link

open Link

/-- The listing of links whose addresses can be encoded. -/
theorem Link.exists_listsLinks {d : Desk} {records : List Json}
    (hrecords : Links.collection.records d = .ok records) (hne : records ≠ []) {links : List Link}
    (hlinks : records.map ofRecord? = links.map some) :
    ∃ response, Links.collection.list d = .ok [response] ∧ ListsLinks links response := by
  let text (record : Json) : String := ((ofRecord? record).map (String.ofList ∘ markup)).getD ""
  have hlines : ∀ r ∈ records, Links.line r = .ok (text r) := by
    intro r hr
    have hmem := List.mem_map_of_mem (f := ofRecord?) hr
    rw [hlinks] at hmem
    obtain ⟨link, -, hlink⟩ := List.mem_map.1 hmem
    rw [line_eq, ← hlink]
    simp [text, ← hlink]
  have htexts : records.map text = links.map (String.ofList ∘ markup) := by
    have h := congrArg (List.map fun link? ↦ (link?.map (String.ofList ∘ markup)).getD "") hlinks
    rwa [List.map_map, List.map_map] at h
  have hlist : Links.collection.list d = .ok [⟨Collection.joinLines
      (Collection.numberedTexts 1 (links.map (String.ofList ∘ markup))), .link, true, none,
      records.any Links.collection.tears⟩] := by
    have hnumbered := Collection.numbered_eq_ok hlines 1
    rw [Collection.list_eq_bind hrecords hne, ← htexts]
    show (Collection.numbered Links.line 1 records >>= fun lines ↦ _) = _
    rw [hnumbered, ok_bind]
    rfl
  have hgap : '[' ∉ ([] : List Char) := List.not_mem_nil
  have hplain := plainFrom?_lines hgap (List.forall_mem_nil _) 1 links
  rw [← toList_joinLines, ← plain?_eq] at hplain
  have hcategory : Category.link ≠ .clear := by decide
  refine ⟨_, hlist, rfl, ?_, hplain, Console.present?_eq_some hcategory rfl rfl hplain⟩
  dsimp only
  rw [toList_joinLines, scan_lines List.not_mem_nil]

/-- **Links are listed safely**, whatever their names and addresses are. A torn address cannot be
encoded, so that there is no listing. Any other listing is presented without an error; its markup
consists of the tags that open and close the links, of their names and addresses, in which no tag is
active, and of their numbers; and it shows each name and address with all characters in order, but
for backslashes. -/
theorem links_listed_safely (d : Desk) (records : List Json)
    (hrecords : Links.collection.records d = .ok records)
    (haccepts : ∀ r ∈ records, Links.accepts r = true) :
    (records = [] → Links.collection.list d = .ok (Response.reply "No links found.")) ∧
      ((∃ r ∈ records, ∃ ps, Collection.field? "url" r = some (.scalar (.torn ps))) →
        Links.collection.list d = .error .unexpected) ∧
      (records ≠ [] →
        (∀ r ∈ records, ∀ ps, Collection.field? "url" r ≠ some (.scalar (.torn ps))) →
        ∃ links response, records.map ofRecord? = links.map some ∧
          Links.collection.list d = .ok [response] ∧ ListsLinks links response) ∧
      ∀ link : Link, link.IsSafe := by
  refine ⟨fun hempty ↦ ?_, ?_, fun hne hwhole ↦ ?_, isSafe⟩
  · rw [Collection.list, hrecords, hempty]
    rfl
  · rintro ⟨r, hr, ps, htorn⟩
    have hnone : ofRecord? r = none := by
      rw [ofRecord?, htorn]
      cases (Collection.field? "name" r).bind Json.shown? <;> rfl
    rw [Collection.list_eq_bind hrecords (List.ne_nil_of_mem hr)]
    show (Collection.numbered Links.line 1 records >>= fun lines ↦ _) = _
    rw [numbered_eq_error ⟨r, hr, hnone⟩]
    rfl
  · have hlink : ∀ r ∈ records, ∃ link, ofRecord? r = some link := by
      intro r hr
      refine (ofRecord?_of_accepts (haccepts r hr)).resolve_right ?_
      rintro ⟨-, ps, htorn⟩
      exact hwhole r hr ps htorn
    have hlinks := map_ofRecord? hlink
    obtain ⟨response, hlist, hlists⟩ := exists_listsLinks hrecords hne hlinks
    exact ⟨_, response, hlinks, hlist, hlists⟩

/-- A desk with some links. -/
def Desk.withLinks (records : List Json) : Desk where
  store := ⟨[(.text Links.collection.key, .arr records)], .memory⟩
  home := ⟨.slash, ["home"]⟩
  savedFiles := ⟨.slash, ["home", "saved"]⟩

/-- Links with brackets and backslashes at the ends of their names and addresses. -/
def Links.bracketed : List Json :=
  [.obj [("name", .str "Bad [b"), ("url", .str "http://x.com/[/b]")],
    .obj [("name", .str "] [/link]\\"), ("url", .str "http://[a]\\\\\\")]]

/-- No part of such links is read as a tag, but a tag that closes a link is shown. -/
theorem links_listed_safely_brackets :
    Links.collection.records (Desk.withLinks Links.bracketed) = .ok Links.bracketed ∧
      (∀ r ∈ Links.bracketed, Links.accepts r = true) ∧
      ∃ response, Links.collection.list (Desk.withLinks Links.bracketed) = .ok [response] ∧
        plain? response.text.toList = some
          "1. Bad [b - http://x.com/[/b]\n2. ] [/link]\\\\ - http://[a]\\[/link]".toList := by
  have hrecords : Links.collection.records (Desk.withLinks Links.bracketed) =
      .ok Links.bracketed := by decide +kernel
  have haccepts : ∀ r ∈ Links.bracketed, Links.accepts r = true := by decide +kernel
  have hwhole : ∀ r ∈ Links.bracketed, ∀ ps,
      Collection.field? "url" r ≠ some (.scalar (.torn ps)) := by
    intro r hr ps
    rcases List.mem_pair.1 hr with rfl | rfl <;> exact fun heq ↦ by cases heq
  obtain ⟨links, response, hlinks, hlist, hlists⟩ :=
    (links_listed_safely (Desk.withLinks Links.bracketed) Links.bracketed hrecords
      haccepts).2.2.1 (by decide) hwhole
  have hknown : Links.bracketed.map ofRecord? = [⟨"Bad [b", "http://x.com/[/b]"⟩,
      ⟨"] [/link]\\", "http://[a]\\\\\\"⟩].map some := by decide +kernel
  obtain rfl := List.map_injective_iff.2 (fun _ _ ↦ Option.some.inj) (hlinks.symm.trans hknown)
  refine ⟨hrecords, haccepts, response, hlist, hlists.plain.trans ?_⟩
  decide +kernel

end Organizer
