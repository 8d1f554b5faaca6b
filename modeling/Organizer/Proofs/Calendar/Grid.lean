import Mathlib.Data.List.DropRight
import Mathlib.Data.List.GetD
import Organizer.Calendar.Month
import Organizer.Proofs.Calendar.Order
import Organizer.Proofs.CommandLine.Stripping

/-!
# The grid of a month

The weeks are laid out by counting places from the first Sunday on. Here the grid is described by
the days instead (`IsGrid`): each day has a row, the number of weeks since that of the first day, so
that a new row begins on each Sunday (`row_succ`), and a column, its weekday. That the two agree is
a matter of one equation (`place_eq`).

A line is taken as a text that goes on with blanks for ever, so that nothing has to be said about
where it ends; and the marks of the current day are taken off before columns are counted
(`unmarked`).
-/

namespace Organizer

/-! ### Lines that go on with blanks -/

namespace Text

theorem exists_eq_dropBlanksEnd_append (cs : List Char) :
    ∃ back, cs = dropBlanksEnd cs ++ back ∧ ∀ c ∈ back, isBlank c = true :=
  ⟨cs.rtakeWhile isBlank, List.rdropWhile_append_rtakeWhile.symm, fun _ ↦ List.mem_rtakeWhile_imp⟩

/-- Nothing is cut off in front of what is not blank. -/
theorem dropBlanksEnd_append_cons (xs : List Char) {x : Char} (hx : isBlank x = false)
    (ys : List Char) : dropBlanksEnd (xs ++ x :: ys) = xs ++ x :: dropBlanksEnd ys := by
  have hconcat (l : List Char) (y : Char) :
      dropBlanksEnd (l ++ [y]) = if isBlank y then dropBlanksEnd l else l ++ [y] :=
    List.rdropWhile_concat ..
  induction ys using List.reverseRecOn with
  | nil =>
    rw [hconcat, hx]
    rfl
  | append_singleton ys y ih =>
    rw [← List.cons_append, ← List.append_assoc, hconcat, hconcat, ih]
    split
    · rfl
    · rw [List.append_assoc, List.cons_append]

/-- Where blanks are cut off, blanks are read. -/
theorem getD_dropBlanksEnd {cs : List Char} (h : ∀ c ∈ cs, isBlank c = true → c = ' ') (k : ℕ) :
    (dropBlanksEnd cs).getD k ' ' = cs.getD k ' ' := by
  obtain ⟨back, hback, hblank⟩ := exists_eq_dropBlanksEnd_append cs
  have hspaces : ∀ c ∈ back, c = ' ' := fun c hc ↦
    h c (by rw [hback]; exact List.mem_append_right _ hc) (hblank c hc)
  conv_rhs => rw [hback]
  rcases lt_or_ge k (dropBlanksEnd cs).length with hk | hk
  · rw [List.getD_append _ _ _ _ hk]
  · rw [List.getD_append_right _ _ _ _ hk, List.getD_eq_default _ _ hk]
    rcases lt_or_ge (k - (dropBlanksEnd cs).length) back.length with hj | hj
    · rw [List.getD_eq_getElem _ _ hj, hspaces _ (List.getElem_mem hj)]
    · rw [List.getD_eq_default _ _ hj]

theorem length_flatMap_range {f : ℕ → List Char} {n : ℕ} (h : ∀ c < n, (f c).length = 3) :
    ((List.range n).flatMap f).length = 3 * n := by
  induction n with
  | zero => rfl
  | succ n ih =>
    rw [List.range_succ, List.flatMap_append, List.flatMap_singleton, List.length_append,
      ih fun c hc ↦ h c (by omega), h n (by omega)]
    omega

/-- A row of cells that are three columns wide, but may be missing from some cell on. -/
theorem getD_flatMap_range {f : ℕ → List Char} {n : ℕ}
    (hf : ∀ c < n, (f c).length = 3 ∨ ∀ c' ≥ c, f c' = []) (k : ℕ) :
    ((List.range n).flatMap f).getD k ' ' =
      if k / 3 < n then (f (k / 3)).getD (k % 3) ' ' else ' ' := by
  induction n with
  | zero => rfl
  | succ n ih =>
    specialize ih fun c hc ↦ hf c (by omega)
    rw [List.range_succ, List.flatMap_append, List.flatMap_singleton]
    rcases hf n (by omega) with hn | hmissing
    · have hlength : ((List.range n).flatMap f).length = 3 * n := by
        refine length_flatMap_range fun c hc ↦ (hf c (by omega)).resolve_right fun hmissing ↦ ?_
        rw [hmissing n (by omega)] at hn
        cases hn
      rcases lt_or_ge k (3 * n) with hk | hk
      · rw [List.getD_append _ _ _ _ (by omega), ih, if_pos (by omega), if_pos (by omega)]
      · rw [List.getD_append_right _ _ _ _ (by omega), hlength]
        by_cases hlast : k / 3 = n
        · rw [if_pos (by omega), hlast, show k - 3 * n = k % 3 by omega]
        · rw [if_neg (by omega), List.getD_eq_default _ _ (by omega)]
    · rw [hmissing n le_rfl, List.append_nil, ih]
      by_cases hlast : k / 3 = n
      · rw [if_neg (by omega), if_pos (by omega), hlast, hmissing n le_rfl]
        rfl
      · exact if_congr (by omega) rfl rfl

end Text

namespace Month

open Text Number

variable {year : ℤ} {month day : ℕ}

/-! ### The place of a day -/

/-- The row of a day: the weeks, from Sunday to Saturday, since that of the first day. -/
def row (year : ℤ) (month day : ℕ) : ℕ :=
  ((Date.mk year month day).number / 7 - (Date.mk year month 1).number / 7).toNat

/-- The column of a day: its weekday, counted from Sunday. -/
def column (year : ℤ) (month day : ℕ) : ℕ := (Date.mk year month day).weekday

theorem isReal_mk_iff :
    (Date.mk year month day).isReal = true ↔ 1 ≤ day ∧ day ≤ daysInMonth year month :=
  Date.isReal_iff

theorem column_lt_seven (year : ℤ) (month day : ℕ) : column year month day < 7 :=
  Date.weekday_lt_seven _

/-- The weekday is that of the first day of all, a Monday, and as many days on. -/
theorem exists_column_eq (hyear : 1 ≤ year) (hreal : (Date.mk year month day).isReal = true) :
    ∃ steps, Date.mk year month day = Date.next^[steps] ⟨1, 1, 1⟩ ∧
      column year month day = (steps + 1) % 7 := by
  have hsteps := Date.eq_iterate_next hreal hyear
  exact ⟨_, hsteps, (congrArg Date.weekday hsteps).trans (Date.weekday_iterate_next _)⟩

/-- **Row and column count the places from the first Sunday on.** -/
theorem place_eq (year : ℤ) (month : ℕ) (hday : 1 ≤ day) :
    7 * row year month day + column year month day = firstColumn year month + (day - 1) := by
  have hnumber : (Date.mk year month day).number = (Date.mk year month 1).number + (day - 1) := by
    simp only [Date.number]
    omega
  simp only [row, column, firstColumn, Date.weekday, hnumber]
  omega

/-- A new row begins on each Sunday. -/
theorem row_succ (year : ℤ) (month : ℕ) (hday : 1 ≤ day) :
    row year month (day + 1) =
      if column year month (day + 1) = 0 then row year month day + 1 else row year month day := by
  have h := place_eq year month hday
  have hnext := place_eq year month (show 1 ≤ day + 1 by omega)
  have hcolumn := column_lt_seven year month day
  have hcolumn' := column_lt_seven year month (day + 1)
  split <;> omega

theorem firstColumn_lt_seven (year : ℤ) (month : ℕ) : firstColumn year month < 7 :=
  Date.weekday_lt_seven _

/-! ### Cells -/

/-- The two columns of a day, with the number on the right. -/
def twoColumns (day : ℕ) : List Char :=
  if day < 10 then [' ', day.digitChar] else DayKey.twoDigits day

/-- The mark in front of the current day. -/
def openMark : List Char := "[reverse]".toList

/-- The mark behind the current day. -/
def closeMark : List Char := "[/reverse]".toList

/-- The cell of a day. -/
def dayCell (marked : Option ℕ) (day : ℕ) : List Char :=
  if marked = some day then openMark ++ (twoColumns day ++ (closeMark ++ [' ']))
  else twoColumns day ++ [' ']

theorem padded_writeNat (hday : day < 100) :
    (if (writeNat day).length < 2 then ' ' :: writeNat day else writeNat day) = twoColumns day := by
  by_cases hsmall : day < 10
  · rw [twoColumns, if_pos hsmall, writeNat, digits_of_lt hsmall]
    rfl
  · rw [twoColumns, if_neg hsmall, writeNat, digits_of_ge (by omega), digits_of_lt (by omega)]
    rfl

/-- The day stands at a place of the grid. -/
structure StandsAt (year : ℤ) (month day r c : ℕ) : Prop where
  real : (Date.mk year month day).isReal = true
  row_eq : row year month day = r
  column_eq : column year month day = c

/-- A place, counted from the first Sunday on, is that of a day of the month. -/
theorem standsAt_of_place {r c : ℕ} (hc : c < 7) (hday : 1 ≤ day)
    (hlast : day ≤ daysInMonth year month)
    (hplace : 7 * r + c = firstColumn year month + (day - 1)) : StandsAt year month day r c := by
  have h := place_eq year month hday
  have hcolumn := column_lt_seven year month day
  exact ⟨isReal_mk_iff.2 ⟨hday, hlast⟩, by omega, by omega⟩

theorem cell_eq_dayCell {r c : ℕ} (h : StandsAt year month day r c) (marked : Option ℕ) :
    cell year month marked r c = dayCell marked day := by
  obtain ⟨hreal, rfl, rfl⟩ := h
  obtain ⟨hday, hlast⟩ := isReal_mk_iff.1 hreal
  have hplace := place_eq year month hday
  have hfew := DayKey.daysInMonth_le year month
  rw [Month.cell, hplace, if_neg (by omega),
    show firstColumn year month + (day - 1) - firstColumn year month + 1 = day by omega,
    if_neg (by omega)]
  simp only [padded_writeNat (show day < 100 by omega), dayCell, List.append_assoc]
  rfl

/-- Where no day stands the cell is blank, or it is missing with all that would follow. -/
theorem cell_of_no_day {r c : ℕ} (hc : c < 7) (h : ∀ day, ¬StandsAt year month day r c) :
    (∀ marked, cell year month marked r c = [' ', ' ', ' ']) ∨
      ∀ marked, ∀ c' ≥ c, cell year month marked r c' = [] := by
  by_cases hbefore : 7 * r + c < firstColumn year month
  · exact .inl fun marked ↦ if_pos hbefore
  by_cases hafter : daysInMonth year month < 7 * r + c - firstColumn year month + 1
  · refine .inr fun marked c' hc' ↦ ?_
    rw [Month.cell, if_neg (by omega), if_pos (by omega)]
  · exact absurd (standsAt_of_place hc (by omega) (by omega) (by omega))
      (h (7 * r + c - firstColumn year month + 1))

/-! ### Characters -/

/-- The characters of a line without the mark. -/
def IsGridChar (c : Char) : Prop := c = ' ' ∨ ∃ d < 10, c = d.digitChar

namespace IsGridChar

variable {c : Char}

theorem eq_blank (h : IsGridChar c) (hblank : isBlank c = true) : c = ' ' := by
  have hdigits : ∀ d < 10, isBlank d.digitChar = false := by decide
  rcases h with rfl | ⟨d, hd, rfl⟩
  · rfl
  · rw [hdigits d hd] at hblank
    cases hblank

/-- No mark and no line break begins with such a character. -/
theorem ne_mark (h : IsGridChar c) : c ≠ '[' ∧ c ≠ '\n' := by
  have hdigits : ∀ d < 10, d.digitChar ≠ '[' ∧ d.digitChar ≠ '\n' := by decide
  rcases h with rfl | ⟨d, hd, rfl⟩
  · decide
  · exact hdigits d hd

end IsGridChar

/-- A day shows a digit in the second of its columns. -/
theorem exists_twoColumns_eq (hday : day < 100) :
    ∃ a, ∃ d < 10, twoColumns day = [a, d.digitChar] ∧ IsGridChar a := by
  rw [twoColumns]
  split
  · exact ⟨' ', day, ‹_›, rfl, .inl rfl⟩
  · exact ⟨_, day % 10, by omega, rfl, .inr ⟨day / 10, by omega, rfl⟩⟩

theorem twoColumns_injective : ∀ a < 32, ∀ b < 32, twoColumns a = twoColumns b → a = b := by
  decide +kernel

theorem StandsAt.day_lt {r c : ℕ} (h : StandsAt year month day r c) : day < 32 := by
  have hreal := isReal_mk_iff.1 h.real
  have hfew := DayKey.daysInMonth_le year month
  omega

/-- The cell of a day without the mark. -/
theorem StandsAt.exists_cell_eq {r c : ℕ} (h : StandsAt year month day r c) :
    ∃ a, ∃ d < 10, IsGridChar a ∧ twoColumns day = [a, d.digitChar] ∧
      cell year month none r c = [a, d.digitChar, ' '] := by
  have hlt := h.day_lt
  obtain ⟨a, d, hd, heq, ha⟩ := exists_twoColumns_eq (show day < 100 by omega)
  refine ⟨a, d, hd, ha, heq, ?_⟩
  rw [cell_eq_dayCell h, dayCell, if_neg (by simp), heq]
  rfl

/-- Without the mark a cell is that of a day, blank, or missing with all that would follow. -/
theorem cell_none_cases (year : ℤ) (month r : ℕ) {c : ℕ} (hc : c < 7) :
    (∃ day a, ∃ d < 10, StandsAt year month day r c ∧ IsGridChar a ∧
        cell year month none r c = [a, d.digitChar, ' ']) ∨
      cell year month none r c = [' ', ' ', ' '] ∨
        ∀ c' ≥ c, cell year month none r c' = [] := by
  by_cases h : ∃ day, StandsAt year month day r c
  · obtain ⟨day, hday⟩ := h
    obtain ⟨a, d, hd, ha, -, heq⟩ := hday.exists_cell_eq
    exact .inl ⟨day, a, d, hd, hday, ha, heq⟩
  · exact .inr ((cell_of_no_day hc (not_exists.1 h)).imp (fun hblank ↦ hblank none)
      (fun hmissing ↦ hmissing none))

theorem isGridChar_cell {r c : ℕ} (hc : c < 7) :
    ∀ x ∈ cell year month none r c, IsGridChar x := by
  rcases cell_none_cases year month r hc with ⟨-, a, d, hd, -, ha, heq⟩ | heq | hmissing
  · rw [heq]
    exact List.forall_mem_cons.2 ⟨ha, List.forall_mem_cons.2 ⟨.inr ⟨d, hd, rfl⟩,
      List.forall_mem_singleton.2 (.inl rfl)⟩⟩
  · rw [heq]
    exact fun x hx ↦ .inl (List.eq_of_mem_replicate (n := 3) hx)
  · rw [hmissing c le_rfl]
    exact List.forall_mem_nil _

/-! ### Lines without the mark -/

/-- The weeks of a month. -/
def weeks (year : ℤ) (month : ℕ) (marked : Option ℕ) : List (List Char) :=
  (List.range (weekCount year month)).map (week year month marked)

theorem isGridChar_row (year : ℤ) (month r : ℕ) :
    ∀ x ∈ (List.range 7).flatMap (cell year month none r), IsGridChar x := by
  intro x hx
  obtain ⟨c, hc, hx⟩ := List.mem_flatMap.1 hx
  exact isGridChar_cell (List.mem_range.1 hc) x hx

theorem isGridChar_week (year : ℤ) (month r : ℕ) : ∀ x ∈ week year month none r, IsGridChar x := by
  intro x hx
  have hfront : week year month none r <+: (List.range 7).flatMap (cell year month none r) :=
    List.rdropWhile_prefix isBlank _
  exact isGridChar_row year month r x (hfront.subset hx)

/-- What a week shows in a column. -/
theorem getD_week (year : ℤ) (month r k : ℕ) :
    (week year month none r).getD k ' ' =
      if k / 3 < 7 then (cell year month none r (k / 3)).getD (k % 3) ' ' else ' ' := by
  rw [week, getD_dropBlanksEnd fun x hx ↦ (isGridChar_row year month r x hx).eq_blank]
  refine getD_flatMap_range (fun c hc ↦ ?_) k
  rcases cell_none_cases year month r hc with ⟨-, a, d, -, -, -, heq⟩ | heq | hmissing
  · exact .inl (by rw [heq]; rfl)
  · exact .inl (by rw [heq]; rfl)
  · exact .inr hmissing

/-- **There is a row for each week that meets the month.** -/
theorem lt_weekCount_iff {r : ℕ} (hmonth : 1 ≤ month ∧ month ≤ 12) :
    r < weekCount year month ↔
      ∃ day, (Date.mk year month day).isReal = true ∧ row year month day = r := by
  have hfirst := firstColumn_lt_seven year month
  have hsome := Date.le_daysInMonth hmonth year
  constructor
  · intro h
    rw [weekCount] at h
    -- the first day of the month that does not lie in an earlier week
    let day := 7 * r - firstColumn year month + 1
    have hplace := place_eq year month (show 1 ≤ day by omega)
    have hcolumn := column_lt_seven year month day
    exact ⟨day, isReal_mk_iff.2 ⟨by omega, by omega⟩, by omega⟩
  · rintro ⟨day, hreal, rfl⟩
    obtain ⟨hday, hlast⟩ := isReal_mk_iff.1 hreal
    have hplace := place_eq year month hday
    rw [weekCount]
    omega

/-- What a line shows in a column; a line goes on with blanks. -/
def shown (lines : List (List Char)) (r k : ℕ) : Char := (lines.getD r []).getD k ' '

theorem shown_weeks {r : ℕ} (hr : r < weekCount year month) (k : ℕ) :
    shown (weeks year month none) r k = (week year month none r).getD k ' ' := by
  have hlength : (weeks year month none).length = weekCount year month := by
    rw [weeks, List.length_map, List.length_range]
  have hget : (weeks year month none).getD r [] = week year month none r := by
    rw [List.getD_eq_getElem _ _ (by omega)]
    simp only [weeks, List.getElem_map, List.getElem_range]
  rw [shown, hget]

/-- In the columns of a day stands its number. -/
theorem shown_of_standsAt (hmonth : 1 ≤ month ∧ month ≤ 12) {r c : ℕ}
    (h : StandsAt year month day r c) :
    [shown (weeks year month none) r (3 * c), shown (weeks year month none) r (3 * c + 1)] =
      twoColumns day := by
  have hr : r < weekCount year month := (lt_weekCount_iff hmonth).2 ⟨day, h.real, h.row_eq⟩
  have hc : c < 7 := h.column_eq ▸ column_lt_seven year month day
  obtain ⟨a, d, -, -, heq, hcell⟩ := h.exists_cell_eq
  rw [shown_weeks hr, shown_weeks hr, getD_week, getD_week, if_pos (by omega), if_pos (by omega),
    show 3 * c / 3 = c by omega, show (3 * c + 1) / 3 = c by omega, hcell, heq,
    show 3 * c % 3 = 0 by omega, show (3 * c + 1) % 3 = 1 by omega]
  rfl

/-- Everything else is blank. -/
theorem shown_eq_blank {r k : ℕ}
    (h : ∀ day, StandsAt year month day r (k / 3) → k % 3 = 2) :
    shown (weeks year month none) r k = ' ' := by
  by_cases hr : r < weekCount year month
  · rw [shown_weeks hr, getD_week]
    split
    · rename_i hc
      rcases cell_none_cases year month r hc with ⟨day, a, d, -, hday, -, heq⟩ | heq | hmissing
      · rw [heq, h day hday]
        rfl
      · rw [heq]
        match k % 3 with
        | 0 | 1 | 2 => rfl
        | n + 3 => rfl
      · rw [hmissing _ le_rfl]
        rfl
    · rfl
  · have hmissing : (weeks year month none).length ≤ r := by
      rw [weeks, List.length_map, List.length_range]
      omega
    rw [shown, List.getD_eq_default _ _ hmissing]
    rfl

/-- **Lines that show the days of a month**, without the mark. -/
structure IsGrid (year : ℤ) (month : ℕ) (lines : List (List Char)) : Prop where
  /-- There is a line for each week, from Sunday to Saturday, that meets the month. -/
  line_iff : ∀ r, r < lines.length ↔
    ∃ day, (Date.mk year month day).isReal = true ∧ row year month day = r
  /-- Each day stands in the line of its week under its weekday, and in no other place. -/
  day_iff : ∀ day, (Date.mk year month day).isReal = true → ∀ r, ∀ c < 7,
    [shown lines r (3 * c), shown lines r (3 * c + 1)] = twoColumns day ↔
      row year month day = r ∧ column year month day = c
  /-- All columns that belong to no day are blank. -/
  blank : ∀ r k, (∀ day, (Date.mk year month day).isReal = true → row year month day = r →
    k ≠ 3 * column year month day ∧ k ≠ 3 * column year month day + 1) → shown lines r k = ' '
  /-- No line ends in a blank. -/
  last : ∀ line ∈ lines, ∀ x ∈ line.getLast?, isBlank x = false

theorem isGrid_weeks (hmonth : 1 ≤ month ∧ month ≤ 12) :
    IsGrid year month (weeks year month none) where
  line_iff r := by
    rw [weeks, List.length_map, List.length_range, lt_weekCount_iff hmonth]
  day_iff day hreal r c hc := by
    have hday : StandsAt year month day (row year month day) (column year month day) :=
      ⟨hreal, rfl, rfl⟩
    constructor
    · intro hshown
      obtain ⟨a, d, hd, -, heq, -⟩ := hday.exists_cell_eq
      -- what is shown is not blank, so that some day stands here
      have hdigit : ∀ d < 10, d.digitChar ≠ ' ' := by decide
      have hsome : ∃ day', StandsAt year month day' r c := by
        by_contra hnone
        have hblank : shown (weeks year month none) r (3 * c + 1) = ' ' :=
          shown_eq_blank fun day' hday' ↦ absurd
            ⟨day', by rwa [show (3 * c + 1) / 3 = c by omega] at hday'⟩ hnone
        rw [heq, hblank] at hshown
        exact hdigit d hd (List.cons.inj (List.cons.inj hshown).2).1.symm
      obtain ⟨day', hday'⟩ := hsome
      obtain rfl := twoColumns_injective day' hday'.day_lt day hday.day_lt
        ((shown_of_standsAt hmonth hday').symm.trans hshown)
      exact ⟨hday'.row_eq, hday'.column_eq⟩
    · rintro ⟨rfl, rfl⟩
      exact shown_of_standsAt hmonth hday
  blank r k h := by
    refine shown_eq_blank fun day hday ↦ ?_
    have hcolumn := hday.column_eq
    obtain ⟨h0, h1⟩ := h day hday.real hday.row_eq
    omega
  last line hline := by
    obtain ⟨r, -, rfl⟩ := List.mem_map.1 hline
    exact getLast?_dropBlanksEnd _

/-! ### The mark of the current day -/

/-- A text without the marks. -/
def unmarked : List Char → List Char
  | '[' :: 'r' :: 'e' :: 'v' :: 'e' :: 'r' :: 's' :: 'e' :: ']' :: cs => unmarked cs
  | '[' :: '/' :: 'r' :: 'e' :: 'v' :: 'e' :: 'r' :: 's' :: 'e' :: ']' :: cs => unmarked cs
  | c :: cs => c :: unmarked cs
  | [] => []

theorem unmarked_openMark_append (cs : List Char) : unmarked (openMark ++ cs) = unmarked cs := rfl

theorem unmarked_closeMark_append (cs : List Char) : unmarked (closeMark ++ cs) = unmarked cs := rfl

theorem unmarked_append {cs : List Char} (h : '[' ∉ cs) (rest : List Char) :
    unmarked (cs ++ rest) = cs ++ unmarked rest := by
  induction cs with
  | nil => rfl
  | cons c cs ih =>
    rw [List.mem_cons, not_or] at h
    rw [List.cons_append, unmarked, ih h.2]
    · rfl
    · exact fun _ hc ↦ absurd hc.symm h.1
    · exact fun _ hc ↦ absurd hc.symm h.1

theorem unmarked_eq_self {cs : List Char} (h : '[' ∉ cs) : unmarked cs = cs := by
  have happend := unmarked_append h []
  rwa [List.append_nil, unmarked, List.append_nil] at happend

/-- Only the cell of the current day is marked. -/
theorem cell_marked {r c : ℕ} (hc : c < 7) (h : ¬StandsAt year month day r c) :
    cell year month (some day) r c = cell year month none r c := by
  by_cases hsome : ∃ day', StandsAt year month day' r c
  · obtain ⟨day', hday'⟩ := hsome
    have hne : day ≠ day' := fun heq ↦ h (heq ▸ hday')
    rw [cell_eq_dayCell hday', cell_eq_dayCell hday', dayCell, dayCell,
      if_neg (by simpa using hne), if_neg (by simp)]
  · rcases cell_of_no_day hc (not_exists.1 hsome) with hblank | hmissing
    · rw [hblank, hblank]
    · rw [hmissing _ c le_rfl, hmissing _ c le_rfl]

theorem week_marked {r : ℕ} (h : ∀ c < 7, ¬StandsAt year month day r c) :
    week year month (some day) r = week year month none r := by
  have hcells : (List.range 7).flatMap (cell year month (some day) r) =
      (List.range 7).flatMap (cell year month none r) :=
    List.flatMap_congr fun c hc ↦ cell_marked (List.mem_range.1 hc) (h c (List.mem_range.1 hc))
  rw [week, week, hcells]

/-- The columns in front of a column, the column, and those behind. -/
theorem exists_range_eq_append {n c : ℕ} (hc : c < n) :
    ∃ behind, List.range n = List.range c ++ c :: behind ∧ ∀ c' ∈ behind, c' < n ∧ c' ≠ c := by
  have hsplit : List.range n = List.range c ++ c :: (List.range n).drop (c + 1) := by
    conv_lhs => rw [← List.take_append_drop c (List.range n)]
    rw [List.take_range, min_eq_left hc.le, List.drop_eq_getElem_cons (by simpa using hc),
      List.getElem_range]
  refine ⟨_, hsplit, fun c' hc' ↦ ⟨List.mem_range.1 (List.mem_of_mem_drop hc'), ?_⟩⟩
  rintro rfl
  have hnodup := List.nodup_range (n := n)
  rw [hsplit] at hnodup
  exact (List.nodup_cons.1 (List.nodup_append.1 hnodup).2.1).1 hc'

/-- **The marks stand around the two columns of the current day.** -/
theorem exists_week_eq {r c : ℕ} (h : StandsAt year month day r c) :
    ∃ before behind, before.length = 3 * c ∧
      week year month none r = before ++ twoColumns day ++ behind ∧
      week year month (some day) r =
        before ++ openMark ++ twoColumns day ++ closeMark ++ behind := by
  have hc : c < 7 := h.column_eq ▸ column_lt_seven year month day
  have hdigits : ∀ d < 10, isBlank d.digitChar = false := by decide
  obtain ⟨a, d, hd, -, heq, hcell⟩ := h.exists_cell_eq
  obtain ⟨others, hrange, hothers⟩ := exists_range_eq_append hc
  let before := (List.range c).flatMap (cell year month none r)
  let rest := others.flatMap (cell year month none r)
  have hlength : before.length = 3 * c := by
    refine length_flatMap_range fun c' hc' ↦ ?_
    rcases cell_none_cases year month r (show c' < 7 by omega) with
      ⟨-, a', d', -, -, -, heq'⟩ | heq' | hmissing
    · rw [heq']
      rfl
    · rw [heq']
      rfl
    · -- a cell follows that is not missing
      cases hcell.symm.trans (hmissing c (by omega))
  -- the other cells of the row are not marked
  have hunique {c' : ℕ} (hne : c' ≠ c) : ¬StandsAt year month day r c' := fun h' ↦
    hne (h'.column_eq.symm.trans h.column_eq)
  have hbefore : (List.range c).flatMap (cell year month (some day) r) = before :=
    List.flatMap_congr fun c' hc' ↦ cell_marked (by have := List.mem_range.1 hc'; omega)
      (hunique (List.mem_range.1 hc').ne)
  have hrest : others.flatMap (cell year month (some day) r) = rest :=
    List.flatMap_congr fun c' hc' ↦ cell_marked (hothers c' hc').1 (hunique (hothers c' hc').2)
  refine ⟨before, dropBlanksEnd (' ' :: rest), hlength, ?_, ?_⟩
  · have hrow : (List.range 7).flatMap (cell year month none r) =
        before ++ [a] ++ d.digitChar :: ' ' :: rest := by
      rw [hrange, List.flatMap_append, List.flatMap_cons, hcell]
      simp only [before, rest, List.append_assoc, List.cons_append, List.nil_append]
    rw [week, hrow, dropBlanksEnd_append_cons _ (hdigits d hd), heq]
    simp only [List.append_assoc, List.cons_append, List.nil_append]
  · obtain ⟨stem, hstem⟩ : ∃ stem, closeMark = stem ++ [']'] := ⟨"[/reverse".toList, rfl⟩
    have hrow : (List.range 7).flatMap (cell year month (some day) r) =
        before ++ openMark ++ [a, d.digitChar] ++ stem ++ ']' :: ' ' :: rest := by
      rw [hrange, List.flatMap_append, List.flatMap_cons, cell_eq_dayCell h, dayCell,
        if_pos rfl, hbefore, hrest, heq, hstem]
      simp only [List.append_assoc, List.cons_append, List.nil_append]
    have hbracket : isBlank ']' = false := by decide
    rw [week, hrow, dropBlanksEnd_append_cons _ hbracket, heq, hstem]
    simp only [List.append_assoc, List.cons_append, List.nil_append]

/-- The last week of a leap February, on the leap day. -/
example : week 2024 2 (some 29) 4 = "25 26 27 28 [reverse]29[/reverse]".toList := by decide +kernel

/-- Without the marks a week is as without a current day. -/
theorem unmarked_week (year : ℤ) (month r : ℕ) (marked : Option ℕ) :
    unmarked (week year month marked r) = week year month none r := by
  have hplain : '[' ∉ week year month none r := fun h ↦
    (isGridChar_week year month r _ h).ne_mark.1 rfl
  cases marked with
  | none => exact unmarked_eq_self hplain
  | some day =>
    by_cases h : ∃ c < 7, StandsAt year month day r c
    · obtain ⟨c, -, hday⟩ := h
      obtain ⟨before, behind, -, hnone, hsome⟩ := exists_week_eq hday
      rw [hnone, List.append_assoc, List.mem_append, List.mem_append, not_or, not_or] at hplain
      rw [hnone, hsome]
      simp only [List.append_assoc, unmarked_append hplain.1, unmarked_openMark_append,
        unmarked_append hplain.2.1, unmarked_closeMark_append, unmarked_eq_self hplain.2.2]
    · rw [week_marked fun c hc hday ↦ h ⟨c, hc, hday⟩]
      exact unmarked_eq_self hplain

/-- Only the week of the current day is marked. -/
theorem weeks_marked (year : ℤ) (month day : ℕ) :
    weeks year month (some day) = (weeks year month none).set (row year month day)
      (week year month (some day) (row year month day)) := by
  refine List.ext_getElem (by simp [weeks]) fun r hr hr' ↦ ?_
  rw [List.getElem_set]
  split
  · rename_i hrow
    simp only [weeks, List.getElem_map, List.getElem_range, hrow]
  · rename_i hrow
    simp only [weeks, List.getElem_map, List.getElem_range]
    exact week_marked fun c _ hday ↦ hrow hday.row_eq

theorem weeks_unreal (h : ¬(Date.mk year month day).isReal = true) :
    weeks year month (some day) = weeks year month none :=
  List.map_congr_left fun _ _ ↦ week_marked fun _ _ hday ↦ h hday.real

/-! ### The text of a month -/

/-- The lines above the weeks. -/
def header (year : ℤ) (month : ℕ) : List String :=
  ["   " ++ name month ++ " " ++ showInt year, " Su Mo Tu We Th Fr Sa"]

theorem text?_eq_ok (hmonth : 1 ≤ month ∧ month ≤ 12) (today : Option Date) :
    text? year month today = .ok ("\n".intercalate (header year month ++
      (weeks year month (markedDay year month today)).map String.ofList)) := by
  rw [text?, if_pos (by omega), Int.toNat_natCast, text, lines, weeks, List.map_map]
  rfl

/-- No mark and no line break begins with any of the characters. -/
def IsInert (cs : List Char) : Prop := '[' ∉ cs ∧ '\n' ∉ cs

theorem isInert_of_forall {cs : List Char} (h : ∀ c ∈ cs, c ≠ '[' ∧ c ≠ '\n') : IsInert cs :=
  ⟨fun hmem ↦ (h _ hmem).1 rfl, fun hmem ↦ (h _ hmem).2 rfl⟩

theorem IsInert.append {cs ds : List Char} (hcs : IsInert cs) (hds : IsInert ds) :
    IsInert (cs ++ ds) := by
  rw [IsInert, List.mem_append, List.mem_append, not_or, not_or]
  exact ⟨⟨hcs.1, hds.1⟩, hcs.2, hds.2⟩

theorem isInert_week (year : ℤ) (month r : ℕ) : IsInert (week year month none r) :=
  isInert_of_forall fun c hc ↦ (isGridChar_week year month r c hc).ne_mark

theorem isInert_writeInt (n : ℤ) : IsInert (writeInt n) :=
  isInert_of_forall (forall_mem_writeInt (by decide) (by decide) n)

theorem isInert_name (month : ℕ) : IsInert (name month).toList := by
  unfold name
  split <;> exact ⟨by decide, by decide⟩

theorem isInert_header (year : ℤ) (month : ℕ) :
    ∀ line ∈ header year month, IsInert line.toList := by
  have hblanks : IsInert "   ".toList := ⟨by decide, by decide⟩
  have hblank : IsInert " ".toList := ⟨by decide, by decide⟩
  refine List.forall_mem_cons.2 ⟨?_, List.forall_mem_singleton.2 ⟨by decide, by decide⟩⟩
  have hyear : IsInert (showInt year).toList := by
    rw [showInt, String.toList_ofList]
    exact isInert_writeInt year
  rw [String.toList_append, String.toList_append, String.toList_append]
  exact ((hblanks.append (isInert_name month)).append hblank).append hyear

/-- **The text of a month.** Below two lines come the weeks; without the marks they are the grid of
the month, and what the text would be on a day of another month. The columns are those of a calendar
that begins on a Monday, the first day of the first year. If the current day lies in the month, the
marks stand around the two columns of that day, and nowhere else; otherwise there are none. -/
theorem text_shows_grid (year : ℤ) {month : ℕ} (hmonth : 1 ≤ month ∧ month ≤ 12)
    (today : Option Date) :
    ∃ lines plain : List (List Char),
      text? year month today =
        .ok ("\n".intercalate (header year month ++ lines.map String.ofList)) ∧
      text? year month none =
        .ok ("\n".intercalate (header year month ++ plain.map String.ofList)) ∧
      lines.map unmarked = plain ∧
      IsGrid year month plain ∧
      (28 ≤ daysInMonth year month ∧ daysInMonth year month ≤ 31) ∧
      (1 ≤ year → ∀ day, (Date.mk year month day).isReal = true →
        ∃ steps, Date.mk year month day = Date.next^[steps] ⟨1, 1, 1⟩ ∧
          column year month day = (steps + 1) % 7) ∧
      (∀ line ∈ (header year month).map String.toList ++ plain, IsInert line) ∧
      (∀ day, (Date.mk year month day).isReal = true → today = some ⟨year, month, day⟩ →
        ∃ before behind, before.length = 3 * column year month day ∧
          plain[row year month day]? = some (before ++ twoColumns day ++ behind) ∧
          lines = plain.set (row year month day)
            (before ++ openMark ++ twoColumns day ++ closeMark ++ behind)) ∧
      ((∀ day, (Date.mk year month day).isReal = true → today ≠ some ⟨year, month, day⟩) →
        lines = plain) := by
  refine ⟨weeks year month (markedDay year month today), weeks year month none,
    text?_eq_ok hmonth today, text?_eq_ok hmonth none, ?_, isGrid_weeks hmonth,
    ⟨Date.le_daysInMonth hmonth year, DayKey.daysInMonth_le year month⟩,
    fun hyear _ ↦ exists_column_eq hyear, ?_, ?_, ?_⟩
  · rw [weeks, weeks, List.map_map]
    exact List.map_congr_left fun r _ ↦ unmarked_week year month r _
  · intro line hline
    rcases List.mem_append.1 hline with hline | hline
    · obtain ⟨s, hs, rfl⟩ := List.mem_map.1 hline
      exact isInert_header year month s hs
    · obtain ⟨r, -, rfl⟩ := List.mem_map.1 hline
      exact isInert_week year month r
  · rintro day hreal rfl
    have hday : StandsAt year month day (row year month day) (column year month day) :=
      ⟨hreal, rfl, rfl⟩
    obtain ⟨before, behind, hlength, hnone, hsome⟩ := exists_week_eq hday
    have hrow := (lt_weekCount_iff hmonth).2 ⟨day, hreal, rfl⟩
    have hmarked : markedDay year month (some ⟨year, month, day⟩) = some day :=
      if_pos ⟨rfl, rfl⟩
    refine ⟨before, behind, hlength, ?_, ?_⟩
    · rw [← hnone, weeks, List.getElem?_map, List.getElem?_range hrow]
      rfl
    · rw [hmarked, weeks_marked, hsome]
  · intro hother
    match today with
    | none => rfl
    | some d =>
      rw [markedDay]
      split
      · rename_i hsame
        obtain ⟨rfl, rfl⟩ := hsame
        exact weeks_unreal fun hreal ↦ hother d.day hreal rfl
      · rfl

/-- On a leap day the mark stands in the last week. -/
theorem text_shows_grid_leap_day :
    ∃ lines plain : List (List Char), ∃ before behind : List Char,
      text? 2024 2 (some ⟨2024, 2, 29⟩) =
        .ok ("\n".intercalate (header 2024 2 ++ lines.map String.ofList)) ∧
      lines.map unmarked = plain ∧ IsGrid 2024 2 plain ∧ before.length = 12 ∧
      plain[4]? = some (before ++ ['2', '9'] ++ behind) ∧
      lines = plain.set 4 (before ++ openMark ++ ['2', '9'] ++ closeMark ++ behind) := by
  obtain ⟨lines, plain, htext, -, hunmarked, hgrid, -, -, -, hmarked, -⟩ :=
    text_shows_grid 2024 (show 1 ≤ 2 ∧ 2 ≤ 12 by decide) (some ⟨2024, 2, 29⟩)
  obtain ⟨before, behind, hlength, hplain, hlines⟩ := hmarked 29 (by decide) rfl
  exact ⟨lines, plain, before, behind, htext, hunmarked, hgrid, hlength, hplain, hlines⟩

end Month

end Organizer
