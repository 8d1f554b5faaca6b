import Organizer.Proofs.App.Running
import Organizer.Proofs.Calendar.Restoring
import Organizer.Proofs.Collection.Numbering

/-!
# The listing of all days

In the listing of all days each event is protected from being read as markup, but all of them stand
in one text. Two events of a day can therefore form a tag that neither of them has: one leaves a tag
open, and the first bracket in the events after it closes (`connects`). Nothing reaches over a
heading, for that begins with an opening bracket.

If no events of a day are connected, the listing shows every day with its events
(`plain?_days`), and this holds in every state that is reached from an empty store
(`all_days_listed`); which days are listed follows from the index (`ActiveDays`), and if that is
right they are all days with events. If events are connected, the markup may be in error, so that
nothing is shown at all (`not_always_presented`).

Where a screen knows emoji, nothing in an event is protected from being replaced by one. But no code
reaches from one event into another, for there are blanks between them; so it is enough that each
event by itself has no code (`codeFree_shownDays`). Which codes there are is left open.
-/

namespace Organizer

open Organizer.Action Json Store

namespace Agenda

variable {d : Desk} {day : String} {events : List String} {rest : List Char}

/-! ### Events -/

/-- A text, protected from being read as markup. -/
def protect (s : String) : String := String.ofList (Markup.escape s.toList)

/-- A text as it is shown when it is protected. -/
def displayed (s : String) : String := String.ofList (Markup.display s.toList)

theorem toList_protect (s : String) : (protect s).toList = Markup.escape s.toList :=
  String.toList_ofList

theorem toList_displayed (s : String) : (displayed s).toList = Markup.display s.toList :=
  String.toList_ofList

/-- Does a text leave a tag open that one of the later texts closes? -/
def connects : List String → Bool
  | [] => false
  | s :: ss =>
    (Markup.leavesOpen s.toList &&
      (ss.flatMap String.toList).find? Markup.isBracket == some ']') || connects ss

/-- Numbered lines below a heading. -/
def below (n : ℕ) (texts : List String) : List Char :=
  (Collection.numberedTexts n texts).flatMap fun s ↦ "\n  ".toList ++ s.toList

theorem below_cons (n : ℕ) (s : String) (ss : List String) :
    below n (s :: ss) =
      "\n  ".toList ++ Collection.number n ++ (s.toList ++ below (n + 1) ss) := by
  rw [below, Collection.numberedTexts, List.flatMap_cons, Collection.toList_number]
  simp [below]

/-- The brackets below a heading are those of the events. -/
theorem find?_below (n : ℕ) (events : List String) :
    (below n (events.map protect)).find? Markup.isBracket =
      (events.flatMap String.toList).find? Markup.isBracket := by
  induction events generalizing n with
  | nil => rfl
  | cons e es ih =>
    have hgap : ("\n  ".toList).find? Markup.isBracket = none := by decide
    rw [List.map_cons, below_cons, List.append_assoc, List.find?_append, hgap, Option.none_or,
      Collection.find?_number_append, List.find?_append, ih, toList_protect,
      Markup.find?_escape, List.flatMap_cons, List.find?_append]

theorem beginsNeutral_below (hneutral : Markup.beginsNeutral rest = true) (n : ℕ)
    (texts : List String) : Markup.beginsNeutral (below n texts ++ rest) = true := by
  cases texts with
  | nil => exact hneutral
  | cons s ss => rw [below_cons]; rfl

/-- **The events of a day are shown below its heading** if none of them leaves a tag open that a
later one closes. -/
theorem plainFrom?_below (hconnects : connects events = false)
    (hneutral : Markup.beginsNeutral rest = true)
    (hcloses : rest.find? Markup.isBracket ≠ some ']') (n : ℕ) (openTags : List Markup.OpenTag) :
    Markup.plainFrom? openTags (Markup.scan (below n (events.map protect) ++ rest)) =
      (Markup.plainFrom? openTags (Markup.scan rest)).map
        (below n (events.map displayed) ++ ·) := by
  induction events generalizing n with
  | nil => simp [below, Collection.numberedTexts]
  | cons e es ih =>
    obtain ⟨he, hes⟩ := Bool.or_eq_false_iff.1 hconnects
    -- the first bracket after the event is one of the later events, or else it comes after all
    have hlater : Markup.leavesOpen e.toList = true →
        (below (n + 1) (es.map protect) ++ rest).find? Markup.isBracket ≠ some ']' := by
      intro hopen
      rw [hopen, Bool.true_and, beq_eq_false_iff_ne] at he
      rw [List.find?_append, find?_below]
      cases hfind : (es.flatMap String.toList).find? Markup.isBracket with
      | none => exact hcloses
      | some c => rwa [hfind] at he
    rw [List.map_cons, List.map_cons, below_cons, below_cons, List.append_assoc _ _ rest,
      List.append_assoc _ _ rest, Collection.plainFrom?_number (by decide), toList_protect,
      Markup.plainFrom?_escape_append (beginsNeutral_below hneutral _ _) hlater, ih hes,
      Option.map_map, Option.map_map, toList_displayed]
    simp only [Function.comp_def, List.append_assoc]

/-! ### Days -/

/-- In a date there are only digits and hyphens. -/
theorem not_mem_pretty (hday : DayKey.isDigits 6 day.toList = true) {c : Char}
    (hc : Text.isDigit c = false) (hhyphen : c ≠ '-') : c ∉ (DayKey.pretty day).toList := by
  have hdigits : ∀ c ∈ day.toList.take 6, Text.isDigit c = true := by
    simp only [DayKey.isDigits, Bool.and_eq_true, List.all_eq_true] at hday
    exact hday.1.2
  have hpart (m : ℕ) (hm : m ≤ 4) : c ∉ (day.toList.drop m).take 2 := by
    intro hmem
    rw [List.take_drop] at hmem
    have hsubset := List.take_subset_take_left day.toList (by omega : m + 2 ≤ 6)
    exact Bool.false_ne_true (hc.symm.trans (hdigits _ (hsubset (List.mem_of_mem_drop hmem))))
  have hyear := hpart 0 (by omega)
  have hmonth := hpart 2 (by omega)
  have hmonthday := hpart 4 (by omega)
  have htwo : c ≠ '2' := fun h ↦ absurd hc (h ▸ by decide)
  have hzero : c ≠ '0' := fun h ↦ absurd hc (h ▸ by decide)
  rw [List.drop_zero] at hyear
  simp [DayKey.pretty, hyear, hmonth, hmonthday, htwo, hzero, hhyphen]

theorem noOpening_heading (hday : DayKey.isDigits 6 day.toList = true) :
    '[' ∉ (DayKey.pretty day ++ ":").toList := by
  rw [String.toList_append, List.mem_append, not_or]
  exact ⟨not_mem_pretty hday (by decide) (by decide), by decide⟩

/-- The heading of a day in bold. -/
theorem plainFrom?_heading (hday : DayKey.isDigits 6 day.toList = true) (rest : List Char) :
    Markup.plainFrom? []
        (Markup.scan (("[bold]" ++ DayKey.pretty day ++ ":[/bold]").toList ++ rest)) =
      (Markup.plainFrom? [] (Markup.scan rest)).map ((DayKey.pretty day ++ ":").toList ++ ·) := by
  have hopen : Markup.openAfter? [] "bold".toList = some [⟨"bold", none⟩] := by decide +kernel
  have hclose : Markup.openAfter? [⟨"bold", none⟩] "/bold".toList = some [] := by decide +kernel
  have htag : Markup.IsTag "bold".toList := by decide
  have htag' : Markup.IsTag "/bold".toList := by decide
  have htext : ("[bold]" ++ DayKey.pretty day ++ ":[/bold]").toList ++ rest =
      (Markup.Segment.tag 0 "bold".toList).source ++ ((DayKey.pretty day ++ ":").toList ++
        ((Markup.Segment.tag 0 "/bold".toList).source ++ rest)) := by
    simp [Markup.Segment.source, Markup.bracketed]
  have hlast : (DayKey.pretty day ++ ":").toList.getLast? ≠ some '\\' := by simp
  rw [htext, Markup.scan_tag 0 htag, Markup.plainFrom?_tag_even rfl, hopen, Option.bind_some,
    Markup.plainFrom?_literal (noOpening_heading hday) hlast, Markup.scan_tag 0 htag',
    Markup.plainFrom?_tag_even rfl, hclose, Option.bind_some]
  simp [Option.map_map, Function.comp_def]

/-- A heading with numbered lines below. -/
def dayText (heading : String) (texts : List String) : String :=
  Collection.joinLines (heading :: (Collection.numberedTexts 1 texts).map ("  " ++ ·))

theorem toList_dayText (heading : String) (texts : List String) :
    (dayText heading texts).toList = heading.toList ++ below 1 texts := by
  rw [dayText, Collection.joinLines, Collection.toList_intercalate_cons, List.flatMap_map, below]
  simp

/-- The markup of a day, with the texts of its events. -/
def markupDay (day : String × List String) : String :=
  dayText ("[bold]" ++ DayKey.pretty day.1 ++ ":[/bold]") (day.2.map protect)

/-- A day as it is shown. -/
def shownDay (day : String × List String) : String :=
  dayText (DayKey.pretty day.1 ++ ":") (day.2.map displayed)

/-- The day is spelled in digits, and none of its events is connected with a later one. -/
structure IsShowable (day : String × List String) : Prop where
  digits : DayKey.isDigits 6 day.1.toList = true
  connects : connects day.2 = false

theorem plainFrom?_day {day : String × List String} (hday : IsShowable day)
    (hneutral : Markup.beginsNeutral rest = true)
    (hcloses : rest.find? Markup.isBracket ≠ some ']') :
    Markup.plainFrom? [] (Markup.scan ((markupDay day).toList ++ rest)) =
      (Markup.plainFrom? [] (Markup.scan rest)).map ((shownDay day).toList ++ ·) := by
  rw [markupDay, toList_dayText, List.append_assoc, plainFrom?_heading hday.digits,
    plainFrom?_below hday.connects hneutral hcloses, shownDay, toList_dayText, Option.map_map]
  simp only [Function.comp_def, List.append_assoc]

/-- Days below other ones. -/
def further (dayText : String × List String → String) (days : List (String × List String)) :
    List Char :=
  days.flatMap fun day ↦ "\n\n".toList ++ (dayText day).toList

theorem beginsNeutral_further (dayText : String × List String → String)
    (days : List (String × List String)) : Markup.beginsNeutral (further dayText days) = true := by
  cases days <;> rfl

theorem find?_further (days : List (String × List String)) :
    (further markupDay days).find? Markup.isBracket ≠ some ']' := by
  cases days with
  | nil => simp [further]
  | cons day days =>
    have hbold : (markupDay day).toList = "[bold]".toList ++
        ((DayKey.pretty day.1 ++ ":[/bold]").toList ++ below 1 (day.2.map protect)) := by
      rw [markupDay, toList_dayText]
      simp
    rw [further, List.flatMap_cons, hbold]
    simp [Markup.isBracket]

theorem plainFrom?_further {days : List (String × List String)}
    (h : ∀ day ∈ days, IsShowable day) :
    Markup.plainFrom? [] (Markup.scan (further markupDay days)) =
      some (further shownDay days) := by
  induction days with
  | nil => rw [further, List.flatMap_nil, Markup.scan_nil, Markup.plainFrom?_nil]; rfl
  | cons day days ih =>
    obtain ⟨hday, hdays⟩ := List.forall_mem_cons.1 h
    rw [further, List.flatMap_cons, ← further, List.append_assoc,
      Markup.plainFrom?_literal (by decide) (by decide),
      plainFrom?_day hday (beginsNeutral_further _ _) (find?_further _), ih hdays]
    simp [further]

/-- **The listing of all days shows each of them**, one below the other. -/
theorem plain?_days {days : List (String × List String)} (h : ∀ day ∈ days, IsShowable day) :
    Markup.plain? ("\n\n".intercalate (days.map markupDay)).toList =
      some ("\n\n".intercalate (days.map shownDay)).toList := by
  cases days with
  | nil => simp [Markup.plain?_eq, Markup.plainFrom?_nil]
  | cons day days =>
    obtain ⟨hday, hdays⟩ := List.forall_mem_cons.1 h
    rw [List.map_cons, List.map_cons, Collection.toList_intercalate_cons,
      Collection.toList_intercalate_cons, List.flatMap_map, List.flatMap_map, Markup.plain?_eq,
      ← further, ← further, plainFrom?_day hday (beginsNeutral_further _ _) (find?_further _),
      plainFrom?_further hdays]
    rfl

/-! ### Emoji -/

section Emoji

variable {emoji : Markup.EmojiTable} {cs : List Char}

/-- A number with a gap in front of it separates what comes before from what comes after. -/
theorem codeFree_below (hcs : Markup.CodeFree emoji cs)
    (h : ∀ text ∈ events, Markup.CodeFree emoji text.toList) (n : ℕ) :
    Markup.CodeFree emoji (cs ++ below n events) := by
  induction events generalizing n cs with
  | nil => rwa [below, Collection.numberedTexts, List.flatMap_nil, List.append_nil]
  | cons text texts ih =>
    obtain ⟨htext, htexts⟩ := List.forall_mem_cons.1 h
    have hsplit : cs ++ below n (text :: texts) =
        cs ++ '\n' :: ("  ".toList ++ Number.writeNat n ++ ['.'] ++
          ' ' :: (text.toList ++ below (n + 1) texts)) := by
      simp [below_cons, Collection.number]
    have hdigits : ':' ∉ Number.writeNat n := fun hmem ↦
      Number.forall_mem_writeNat (P := (· ≠ ':')) (by decide) n _ hmem rfl
    have hnumber : ':' ∉ "  ".toList ++ Number.writeNat n ++ ['.'] := by simp [hdigits]
    rw [hsplit]
    exact Markup.codeFree_append_cons (by decide) hcs (Markup.codeFree_append_cons (by decide)
      (Markup.codeFree_of_not_mem hnumber) (ih htext htexts _))

theorem codeFree_shownDay {day : String × List String}
    (hday : DayKey.isDigits 6 day.1.toList = true)
    (h : ∀ event ∈ day.2, Markup.CodeFree emoji (displayed event).toList) :
    Markup.CodeFree emoji (shownDay day).toList := by
  have hcolons : (DayKey.pretty day.1 ++ ":").toList.count ':' ≤ 1 := by
    have hpretty := not_mem_pretty hday (c := ':') (by decide) (by decide)
    rw [String.toList_append, List.count_append, List.count_eq_zero_of_not_mem hpretty]
    decide
  rw [shownDay, toList_dayText]
  exact codeFree_below (Markup.codeFree_of_count hcolons) (List.forall_mem_map.2 h) 1

theorem codeFree_further {days : List (String × List String)} (hcs : Markup.CodeFree emoji cs)
    (h : ∀ day ∈ days, Markup.CodeFree emoji (shownDay day).toList) :
    Markup.CodeFree emoji (cs ++ further shownDay days) := by
  induction days generalizing cs with
  | nil => rwa [further, List.flatMap_nil, List.append_nil]
  | cons day days ih =>
    obtain ⟨hday, hdays⟩ := List.forall_mem_cons.1 h
    have hsplit : cs ++ further shownDay (day :: days) =
        (cs ++ '\n' :: ([] ++ '\n' :: (shownDay day).toList)) ++ further shownDay days := by
      simp [further]
    rw [hsplit]
    exact ih (Markup.codeFree_append_cons (by decide) hcs
      (Markup.codeFree_append_cons (by decide) (Markup.codeFree_of_not_mem nofun) hday)) hdays

/-- **No code reaches over an event**: the listing has none if no event has one. -/
theorem codeFree_shownDays {days : List (String × List String)}
    (hdigits : ∀ day ∈ days, DayKey.isDigits 6 day.1.toList = true)
    (h : ∀ day ∈ days, ∀ event ∈ day.2, Markup.CodeFree emoji (displayed event).toList) :
    Markup.CodeFree emoji ("\n\n".intercalate (days.map shownDay)).toList := by
  have hdays : ∀ day ∈ days, Markup.CodeFree emoji (shownDay day).toList := fun day hday ↦
    codeFree_shownDay (hdigits day hday) (h day hday)
  cases days with
  | nil => exact Markup.codeFree_of_not_mem (by decide)
  | cons day days =>
    obtain ⟨hday, hdays⟩ := List.forall_mem_cons.1 hdays
    rw [List.map_cons, Collection.toList_intercalate_cons, List.flatMap_map, ← further]
    exact codeFree_further hday hdays

end Emoji

/-! ### The days that have events -/

/-- The text of an event. -/
def wording (event : Json) : String := event.shown?.getD ""

theorem exists_shown? {event : Json} (h : event.isText = true) :
    ∃ text, event.shown? = some text := by
  cases event with
  | scalar x => cases x <;> first | exact ⟨_, rfl⟩ | cases h
  | arr | obj => cases h

theorem eventText_eq_ok {event : Json} (h : event.isText = true) :
    eventText event = .ok (protect (wording event)) := by
  obtain ⟨text, htext⟩ := exists_shown? h
  rw [eventText, wording, htext]
  rfl

/-- The day with the texts of its events. -/
def withTexts (day : DayEvents) : String × List String := (day.1, day.2.map wording)

theorem dayBlock_eq_ok {day : DayEvents} (h : ∀ event ∈ day.2, event.isText = true) :
    dayBlock day = .ok (markupDay (withTexts day)) := by
  have hlines := Collection.numbered_eq_ok (fun event hevent ↦ eventText_eq_ok (h event hevent)) 1
  rw [dayBlock, hlines, ok_bind, markupDay, dayText, withTexts, List.map_map]
  rfl

/-- The days are those of an index that have events, in order. -/
structure ActiveDays (s : Store) (index : List Json) (days : List DayEvents) : Prop where
  /-- All of them, with all of their events, and no others. -/
  mem_iff : ∀ day, day ∈ days ↔ Json.str (dayPrefix ++ day.1) ∈ index ∧
    s.list (dayPrefix ++ day.1 : String) = .ok day.2 ∧ day.2 ≠ []
  ordered : days.Pairwise fun a b ↦ a.1 ≤ b.1
  /-- A day stands there twice only if it does so in the index. -/
  nodup : index.Nodup → (days.map (·.1)).Nodup

theorem exists_eq_dayPrefix_append {key : String} (h : isDayKey key = true) :
    ∃ day, key = dayPrefix ++ day := by
  obtain ⟨rest, hrest⟩ := List.isPrefixOf_iff_prefix.1 h
  refine ⟨String.ofList rest, String.toList_inj.1 ?_⟩
  rw [← hrest, String.toList_append, String.toList_ofList]

/-- The index of a tidy desk lists days. -/
theorem exists_days (htidy : d.Tidy) :
    ∃ days : List String, d.store.days = .ok (days.map fun day ↦ .str (dayPrefix ++ day)) := by
  obtain ⟨entries, hlist, hentries⟩ := htidy.holding.exists_list indexKey
  obtain ⟨keys, hkeys, hdays⟩ := exists_map_eq (f := id) fun entry hentry ↦
    (hentries entry hentry).entry rfl
  rw [List.map_id] at hkeys
  obtain ⟨sorted, hsort, hperm, -⟩ := sort?_spelled (keys.map pointsOf)
  have hsorted : ∀ ps ∈ sorted, ∃ day, id ps = pointsOf (dayPrefix ++ day) ∧ True := by
    intro ps hps
    obtain ⟨key, hkey, rfl⟩ := List.mem_map.1 (hperm.subset hps)
    obtain ⟨day, rfl⟩ := exists_eq_dayPrefix_append (hdays key hkey)
    exact ⟨day, rfl, trivial⟩
  obtain ⟨days, hmap, -⟩ := exists_map_eq hsorted
  refine ⟨days, ?_⟩
  rw [map_spelled_pointsOf, ← hkeys] at hsort
  rw [List.map_id] at hmap
  have hspelled : sorted.map spelled = days.map fun day ↦ .str (dayPrefix ++ day) := by
    simpa only [hmap, List.map_map, Function.comp_def] using
      map_spelled_pointsOf (days.map (dayPrefix ++ ·))
  rw [Store.days, hlist, ok_bind, Store.sorted, hsort, hspelled]

/-- A day with its events, if it has some. -/
def active? (day : String) (events : List Json) : Option DayEvents :=
  if events = [] then none else some (day, events)

theorem active?_eq_some {events : List Json} {active : DayEvents} :
    active? day events = some active ↔ events ≠ [] ∧ (day, events) = active := by
  rw [active?, Option.ite_none_left_eq_some, Option.some_inj]

/-- Of some days, those with events. -/
theorem map_fst_filterMap_active? (records : String → List Json) (days : List String) :
    (days.filterMap fun day ↦ active? day (records day)).map (·.1) =
      days.filter fun day ↦ !(records day).isEmpty := by
  induction days with
  | nil => rfl
  | cons day days ih =>
    rw [List.filterMap_cons, List.filter_cons, ← ih]
    cases h : records day <;> simp [active?]

theorem dayEvents?_eq_ok {events : List Json}
    (h : d.store.list (dayPrefix ++ day : String) = .ok events) :
    dayEvents? d (.str (dayPrefix ++ day)) = .ok (active? day events) := by
  have hday : dayOfKey (.text (dayPrefix ++ day)) = .ok day := by
    simp [dayOfKey, Scalar.shown?]
  rw [dayEvents?, keyOf, ok_bind, h, ok_bind]
  cases events with
  | nil => rfl
  | cons event events =>
    show (dayOfKey (.text (dayPrefix ++ day)) >>= fun day ↦ _) = _
    rw [hday]
    rfl

section Index

variable {names : List String} {records : String → List Json}

/-- Days in the order of the listing. -/
def inOrder (days : List DayEvents) : List DayEvents :=
  days.mergeSort fun a b ↦ decide (a.1 ≤ b.1)

theorem daysWithEvents_eq_ok
    (hindex : d.store.days = .ok (names.map fun day ↦ .str (dayPrefix ++ day)))
    (hrecords : ∀ day, d.store.list (dayPrefix ++ day : String) = .ok (records day)) :
    daysWithEvents d = .ok (inOrder (names.filterMap fun day ↦ active? day (records day))) := by
  have hmap : names.mapM (fun day ↦ dayEvents? d (.str (dayPrefix ++ day))) =
      .ok (names.map fun day ↦ active? day (records day)) :=
    mapM_eq_ok fun day _ ↦ dayEvents?_eq_ok (hrecords day)
  rw [daysWithEvents, hindex, ok_bind, List.mapM_map]
  show (names.mapM (fun day ↦ dayEvents? d (.str (dayPrefix ++ day))) >>= fun days ↦ _) = _
  rw [hmap, ok_bind, List.filterMap_map]
  rfl

theorem ordered_inOrder (days : List DayEvents) :
    (inOrder days).Pairwise fun a b ↦ a.1 ≤ b.1 := by
  have hsorted : (inOrder days).Pairwise fun a b ↦ decide (a.1 ≤ b.1) = true :=
    List.pairwise_mergeSort (fun a b c ↦ by simpa using le_trans)
      (fun a b ↦ by simpa using le_total _ _) days
  exact hsorted.imp fun h ↦ of_decide_eq_true h

theorem activeDays_inOrder
    (hrecords : ∀ day, d.store.list (dayPrefix ++ day : String) = .ok (records day)) :
    ActiveDays d.store (names.map fun day ↦ .str (dayPrefix ++ day))
      (inOrder (names.filterMap fun day ↦ active? day (records day))) where
  mem_iff day := by
    rw [inOrder, List.mem_mergeSort, List.mem_filterMap]
    constructor
    · rintro ⟨name, hname, hactive⟩
      obtain ⟨hne, rfl⟩ := active?_eq_some.1 hactive
      exact ⟨List.mem_map_of_mem hname, hrecords name, hne⟩
    · rintro ⟨hmem, hlist, hne⟩
      obtain ⟨name, hname, heq⟩ := List.mem_map.1 hmem
      obtain rfl : name = day.1 := by simpa using heq
      have hday : records day.1 = day.2 := Except.ok.inj ((hrecords day.1).symm.trans hlist)
      exact ⟨_, hname, active?_eq_some.2 ⟨hday ▸ hne, by rw [hday]⟩⟩
  ordered := ordered_inOrder _
  nodup hnodup := by
    have hperm := (List.mergeSort_perm (names.filterMap fun day ↦ active? day (records day))
      fun a b ↦ decide (a.1 ≤ b.1)).map (·.1)
    refine hperm.nodup_iff.2 ?_
    rw [map_fst_filterMap_active? records]
    exact (List.Nodup.of_map _ hnodup).filter _

end Index

theorem exists_daysWithEvents (htidy : d.Tidy) :
    ∃ index days, d.store.days = .ok index ∧ daysWithEvents d = .ok days ∧
      ActiveDays d.store index days := by
  obtain ⟨names, hindex⟩ := exists_days htidy
  choose records hrecords using fun day : String ↦
    htidy.holding.exists_list (dayPrefix ++ day : String)
  have hlist := fun day ↦ (hrecords day).1
  exact ⟨_, _, hindex, daysWithEvents_eq_ok hindex hlist, activeDays_inOrder hlist⟩

/-- The days of a tidy desk with events can be shown, if no events of one day are connected. -/
theorem ActiveDays.isShowable {index : List Json} {days : List DayEvents}
    (h : ActiveDays d.store index days) (htidy : d.Tidy)
    (hconnects : ∀ day events, d.store.list (dayPrefix ++ day : String) = .ok events →
      connects (events.map wording) = false) {day : DayEvents} (hday : day ∈ days) :
    IsShowable (withTexts day) ∧ ∀ event ∈ day.2, event.isText = true := by
  obtain ⟨-, hlist, hne⟩ := (h.mem_iff day).1 hday
  have hkey : isDayKey (dayPrefix ++ day.1 : String) = true := by
    rw [isDayKey, String.toList_append, List.isPrefixOf_iff_prefix]
    exact List.prefix_append _ _
  have hevents := fun event hevent ↦ (htidy.holding.of_list hlist event hevent).event hkey
  refine ⟨⟨?_, hconnects day.1 day.2 hlist⟩, fun event hevent ↦ (hevents event hevent).1⟩
  obtain ⟨event, hevent⟩ := List.exists_mem_of_ne_nil _ hne
  obtain ⟨-, key, heq, hdigits⟩ := hevents event hevent
  obtain rfl := Scalar.text.inj heq
  have hdrop := (Bool.and_eq_true_iff.1 hdigits).2
  rwa [String.toList_append, List.drop_left] at hdrop

/-- If the index is right, all days with events are listed, and none twice. -/
theorem ActiveDays.complete {index : List Json} {days : List DayEvents}
    (h : ActiveDays d.store index days) (htidy : d.Tidy) (hindex : d.store.days = .ok index)
    (hindexed : Indexed d.store.entries) :
    (days.map (·.1)).Nodup ∧ ∀ key events, isDayKey key = true →
      d.store.list key = .ok events → events ≠ [] →
      ∃ day, key = .text (dayPrefix ++ day) ∧ (day, events) ∈ days := by
  obtain ⟨pss, hget, hlists⟩ := hindexed.index
  obtain rfl : index = pss.map spelled :=
    Except.ok.inj (hindex.symm.trans (days_of_index hget hlists))
  refine ⟨h.nodup (hlists.nodup.map spelled_injective), fun key events hkey hlist hne ↦ ?_⟩
  obtain ⟨event, rest, rfl⟩ := List.exists_cons_of_ne_nil hne
  obtain ⟨-, text, rfl, -⟩ := (htidy.holding.of_list hlist event List.mem_cons_self).event hkey
  obtain ⟨day, rfl⟩ := exists_eq_dayPrefix_append hkey
  refine ⟨day, rfl, (h.mem_iff (day, event :: rest)).2 ⟨?_, hlist, hne⟩⟩
  have hmem := (mem_ofPoints_iff hlists.mem_iff hindexed.spelled).2
    ⟨hkey, event, rest, (list_eq_cons.1 hlist).1⟩
  obtain ⟨ps, hps, heq⟩ := List.mem_map.1 hmem
  exact List.mem_map.2 ⟨ps, hps, congrArg Json.scalar heq⟩

/-- The listing of some days as it is shown. -/
def shownDays (days : List DayEvents) : String :=
  "\n\n".intercalate (days.map fun day ↦ shownDay (withTexts day))

theorem viewAll_eq_ok {days : List DayEvents} (hdays : daysWithEvents d = .ok days)
    (hne : days ≠ []) (htexts : ∀ day ∈ days, ∀ event ∈ day.2, event.isText = true) :
    viewAll d = .ok (Response.replyMarkup ("\n\n".intercalate ((days.map withTexts).map markupDay))
      .calendar (tornListing d days)) := by
  have hblocks : days.mapM dayBlock = .ok (days.map fun day ↦ markupDay (withTexts day)) :=
    mapM_eq_ok fun day hday ↦ dayBlock_eq_ok (htexts day hday)
  rw [viewAll, hdays, ok_bind]
  cases days with
  | nil => exact absurd rfl hne
  | cons day days =>
    show ((day :: days).mapM dayBlock >>= fun blocks ↦ _) = _
    rw [hblocks, List.map_map]
    rfl

/-- The headings of a tidy desk are not torn. -/
theorem tornListing_of_tidy (htidy : d.Tidy) (days : List DayEvents) :
    tornListing d days = days.any (·.2.any Json.isTorn) := by
  obtain ⟨names, hindex⟩ := exists_days htidy
  have hheadings : (names.map fun day ↦ Json.str (dayPrefix ++ day)).any (fun entry ↦
      tornHeading entry && ((dayEvents? d entry).toOption.bind id).isSome) = false := by
    rw [List.any_map, List.any_eq_false]
    exact fun day _ ↦ Bool.false_ne_true
  rw [tornListing, hindex, Except.toOption, Option.getD_some, hheadings, Bool.or_false]

/-- The response is the listing of some days, and it shows them on a screen that knows some emoji:
what its markup denotes is their text, and this is presented but for control characters. -/
structure ListsDays (emoji : Markup.EmojiTable) (days : List DayEvents) (response : Response) :
    Prop where
  markup : response.markup = true
  /-- No part of an event is taken for a tag or for an emoji. -/
  plain : Markup.plain? response.text.toList emoji = some (shownDays days).toList
  presented : Console.present? response emoji = some (Console.layOut (shownDays days).toList)
  /-- Lone halves come from the events. -/
  torn : response.torn = days.any (·.2.any Json.isTorn)

theorem listsDays_replyMarkup {emoji : Markup.EmojiTable} {days : List DayEvents}
    (h : ∀ day ∈ days, IsShowable (withTexts day))
    (hcodes : ∀ day ∈ days, ∀ event ∈ day.2,
      Markup.CodeFree emoji (displayed (wording event)).toList)
    (category : Category) (hcategory : category ≠ .clear) {torn : Bool}
    (htorn : torn = days.any (·.2.any Json.isTorn)) :
    ∃ response, Response.replyMarkup ("\n\n".intercalate ((days.map withTexts).map markupDay))
      category torn = [response] ∧ ListsDays emoji days response := by
  have hshowable : ∀ day ∈ days.map withTexts, IsShowable day := List.forall_mem_map.2 h
  have hfree : ∀ day ∈ days.map withTexts, ∀ event ∈ day.2,
      Markup.CodeFree emoji (displayed event).toList :=
    List.forall_mem_map.2 fun day hday ↦ List.forall_mem_map.2 (hcodes day hday)
  have hplain := Markup.plain?_of_codeFree (plain?_days hshowable)
    (codeFree_shownDays (fun day hday ↦ (hshowable day hday).digits) hfree)
  rw [List.map_map (f := withTexts) (g := shownDay)] at hplain
  exact ⟨_, rfl, rfl, hplain, Console.present?_eq_some hcategory rfl rfl hplain, htorn⟩

/-- The response shows all days of a desk with events, on a screen that knows some emoji. -/
structure ListsAll (emoji : Markup.EmojiTable) (d : Desk) (days : List DayEvents)
    (response : Response) : Prop where
  /-- The days are those of the index that have events, in order. -/
  active : ∃ index, d.store.days = .ok index ∧ ActiveDays d.store index days
  /-- If the index is right, all days with events are among them, and none stands twice. -/
  complete : d.store.backing = .memory ∨ d.store.RightlyIndexed →
    (days.map (·.1)).Nodup ∧ ∀ key events, isDayKey key = true →
      d.store.list key = .ok events → events ≠ [] →
      ∃ day, key = .text (dayPrefix ++ day) ∧ (day, events) ∈ days
  /-- Each day is spelled so that its heading is a date. -/
  digits : ∀ day ∈ days, DayKey.isDigits 6 day.1.toList = true
  areTexts : ∀ day ∈ days, ∀ event ∈ day.2, event.isText = true
  answered : viewAll d = .ok [response]
  none : days = [] → [response] = Response.reply "No calendar events found."
  some : days ≠ [] → ListsDays emoji days response

theorem exists_listsAll {emoji : Markup.EmojiTable} (htidy : d.Tidy)
    (hconnects : ∀ day events, d.store.list (dayPrefix ++ day : String) = .ok events →
      connects (events.map wording) = false)
    (hcodes : ∀ day events, d.store.list (dayPrefix ++ day : String) = .ok events →
      ∀ event ∈ events, Markup.CodeFree emoji (displayed (wording event)).toList) :
    ∃ days response, ListsAll emoji d days response := by
  obtain ⟨index, days, hindex, hdays, hactive⟩ := exists_daysWithEvents htidy
  have hshowable : ∀ day ∈ days, IsShowable (withTexts day) := fun day hday ↦
    (hactive.isShowable htidy hconnects hday).1
  have htexts : ∀ day ∈ days, ∀ event ∈ day.2, event.isText = true := fun day hday ↦
    (hactive.isShowable htidy hconnects hday).2
  have hfree : ∀ day ∈ days, ∀ event ∈ day.2,
      Markup.CodeFree emoji (displayed (wording event)).toList := fun day hday ↦
    hcodes day.1 day.2 ((hactive.mem_iff day).1 hday).2.1
  have hcomplete (hright : d.store.backing = .memory ∨ d.store.RightlyIndexed) :=
    hactive.complete htidy hindex (hright.elim htidy.indexed RightlyIndexed.indexed)
  obtain ⟨response, hanswered, hnone, hsome⟩ : ∃ response, viewAll d = .ok [response] ∧
      (days = [] → [response] = Response.reply "No calendar events found.") ∧
      (days ≠ [] → ListsDays emoji days response) := by
    by_cases hne : days = []
    · have hview : viewAll d = .ok (Response.reply "No calendar events found.") := by
        rw [viewAll, hdays, hne]
        rfl
      exact ⟨_, hview, fun _ ↦ rfl, fun h ↦ absurd hne h⟩
    · obtain ⟨response, hresponse, hlists⟩ := listsDays_replyMarkup hshowable hfree .calendar
        (by decide) (tornListing_of_tidy htidy days)
      exact ⟨response, by rw [viewAll_eq_ok hdays hne htexts, hresponse],
        fun h ↦ absurd h hne, fun _ ↦ hlists⟩
  exact ⟨days, response, ⟨index, hindex, hactive⟩, hcomplete,
    fun day hday ↦ (hshowable day hday).digits, htexts, hanswered, hnone, hsome⟩

end Agenda

open Store Agenda

/-- **The listing of all days shows every event completely**, if no event leaves a tag open that a
later event of its day closes, and if no code of an emoji that the screen knows stands in an event.
It is then presented without an error, and each event appears with all its characters in order, but
for backslashes; and as it is, unless a backslash stands before a bracket that opens no tag, or a
single one at the end. -/
theorem all_days_listed (app : App) (run : List App.Event) (emoji : Markup.EmojiTable)
    (hopen : Opens [] app.desk.store)
    (hconnects : ∀ day events,
      (app.after run).desk.store.list (dayPrefix ++ day : String) = .ok events →
      connects (events.map wording) = false)
    (hcodes : ∀ day events,
      (app.after run).desk.store.list (dayPrefix ++ day : String) = .ok events →
      ∀ event ∈ events, Markup.CodeFree emoji (displayed (wording event)).toList) :
    (∃ days response, ListsAll emoji (app.after run).desk days response) ∧
      ∀ text, (displayed text).toList.filter (· != '\\') = text.toList.filter (· != '\\') ∧
        (Markup.hasLostSlash text.toList = false →
          Markup.endsInSingleSlash text.toList = false → displayed text = text) := by
  refine ⟨exists_listsAll (App.tidy_of_opens hopen run) hconnects hcodes, fun text ↦ ⟨?_, ?_⟩⟩
  · rw [toList_displayed, Markup.filter_display]
  · intro hlost hend
    rw [displayed, Markup.display_eq_self hlost hend, String.ofList_toList]

/-- The requests to enter events on one day. -/
def App.enterEvents (texts : List String) : List App.Event :=
  texts.map fun text ↦ .words (fun _ _ ↦ none) ["cal", "add", "250101", text]

/-- The table of one emoji. -/
def onlyPizza : Markup.EmojiTable := fun name ↦ if name = "pizza" then some "🍕" else none

/-- Brackets, slashes and letters of events are shown. -/
theorem all_days_listed_brackets :
    let d := ((App.setUp .memory).after (App.enterEvents ["pay [/b]", "c] d"])).desk
    Opens [] (App.setUp .memory).desk.store ∧
      (∀ day events, d.store.list (dayPrefix ++ day : String) = .ok events →
        connects (events.map wording) = false) ∧
      (∀ day events, d.store.list (dayPrefix ++ day : String) = .ok events →
        ∀ event ∈ events, Markup.CodeFree onlyPizza (displayed (wording event)).toList) ∧
      ∃ days response, ListsAll onlyPizza d days response ∧
        shownDays days = "2025-01-01:\n  1. pay [/b]\n  2. c] d" := by
  intro d
  have hopen : Opens [] (App.setUp .memory).desk.store := .memory (by decide +kernel)
  have hentries : d.store.entries = [(.text indexKey, .arr [.str "cal-250101"]),
      (.text "cal-250101", .arr [.str "pay [/b]", .str "c] d"])] := by decide +kernel
  have hevents : ∀ day events, d.store.list (dayPrefix ++ day : String) = .ok events →
      events ∈ [[], [.str "cal-250101"], [.str "pay [/b]", .str "c] d"]] := by
    intro day events hlist
    cases events with
    | nil => exact List.mem_cons_self
    | cons event events =>
      have hmem := Fields.mem_of_get? (list_eq_cons.1 hlist).1
      rw [hentries] at hmem
      rcases List.mem_pair.1 hmem with heq | heq <;>
        rw [Json.arr.inj (Prod.mk.inj heq).2] <;> simp
  have hconnects : ∀ day events, d.store.list (dayPrefix ++ day : String) = .ok events →
      connects (events.map wording) = false := by
    intro day events hlist
    have hall : ∀ events ∈ [[], [Json.str "cal-250101"], [.str "pay [/b]", .str "c] d"]],
        connects (events.map wording) = false := by decide +kernel
    exact hall events (hevents day events hlist)
  have hcodes : ∀ day events, d.store.list (dayPrefix ++ day : String) = .ok events →
      ∀ event ∈ events, Markup.CodeFree onlyPizza (displayed (wording event)).toList := by
    intro day events hlist event hevent
    have hall : ∀ events ∈ [[], [Json.str "cal-250101"], [.str "pay [/b]", .str "c] d"]],
        ∀ event ∈ events, ':' ∉ (displayed (wording event)).toList := by decide +kernel
    exact Markup.codeFree_of_not_mem (hall events (hevents day events hlist) event hevent)
  obtain ⟨⟨days, response, h⟩, -⟩ := all_days_listed (App.setUp .memory)
    (App.enterEvents ["pay [/b]", "c] d"]) onlyPizza hopen hconnects hcodes
  have hview : viewAll d = .ok (Response.replyMarkup
      "[bold]2025-01-01:[/bold]\n  1. pay \\[/b]\n  2. c] d" .calendar) := by decide +kernel
  obtain rfl := List.singleton_inj.1 (Except.ok.inj (h.answered.symm.trans hview))
  have hne : days ≠ [] := fun hempty ↦ absurd (h.none hempty) (by decide)
  have hplain : Markup.plain?
      "[bold]2025-01-01:[/bold]\n  1. pay \\[/b]\n  2. c] d".toList onlyPizza =
        some "2025-01-01:\n  1. pay [/b]\n  2. c] d".toList := by decide +kernel
  refine ⟨hopen, hconnects, hcodes, days, _, h, String.toList_inj.1 ?_⟩
  exact Option.some.inj ((h.some hne).plain.symm.trans hplain)

/-- An event with a code of an emoji is shown with the emoji. -/
example : Markup.plain? "[bold]2025-01-01:[/bold]\n  1. lunch :pizza: at 12".toList
    (fun name ↦ if name = "pizza" then some "🍕" else none) =
      some "2025-01-01:\n  1. lunch 🍕 at 12".toList := by decide +kernel

/-- **The listing of all days cannot always be presented**: an event may leave a tag open that
closes nothing, and the next event ends it. -/
theorem not_always_presented :
    ¬ ∀ (app : App) (run : List App.Event) (responses : List Response),
      Opens [] app.desk.store → viewAll (app.after run).desk = .ok responses →
      ∀ response ∈ responses, (Console.present? response).isSome = true := by
  intro h
  have hopen : Opens [] (App.setUp .memory).desk.store := .memory (by decide +kernel)
  have hview : viewAll ((App.setUp .memory).after
      (App.enterEvents ["pay [/b", "c] d"])).desk = .ok (Response.replyMarkup
        "[bold]2025-01-01:[/bold]\n  1. pay [/b\n  2. c] d" .calendar) := by decide +kernel
  have hpresent := h _ _ _ hopen hview _ List.mem_cons_self
  exact absurd hpresent (by decide +kernel)

end Organizer
