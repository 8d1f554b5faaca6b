import Mathlib.Data.List.Lex
import Mathlib.Order.Monotone.Basic
import Mathlib.Tactic.IntervalCases
import Organizer.Proofs.Calendar.RealDays

/-!
# The order of days and of points in time

The number of a day is defined by counting the leap years before it. Here it is shown to be what it
is used as: the day after a day has the next number (`Date.number_next`), and of two days that exist
the later one has the larger number (`Date.number_lt_number`). From the first follows that the
weekdays take turns (`Date.weekday_next`), from the second that points in time are ordered as what a
calendar and a clock show (`Moment.instant_lt_instant_iff`). Together they say that a number counts
the steps from the first day on (`Date.eq_iterate_next`).

Only days that exist are in order: in a leap year the thirtieth of February has the same number as
the first of March.
-/

namespace Organizer

namespace Date

variable {d e : Date}

/-! ### Counting the days of a year -/

theorem isReal_iff : d.isReal = true ↔ 1 ≤ d.day ∧ d.day ≤ daysInMonth d.year d.month := by
  rw [isReal, Bool.and_eq_true, decide_eq_true_iff, decide_eq_true_iff]

theorem month_of_isReal (h : d.isReal = true) : 1 ≤ d.month ∧ d.month ≤ 12 := by
  by_contra hmonth
  have hday := isReal_iff.1 h
  rw [DayKey.daysInMonth_eq_zero hmonth] at hday
  omega

theorem le_daysInMonth {month : ℕ} (h : 1 ≤ month ∧ month ≤ 12) (year : Int) :
    28 ≤ daysInMonth year month := by
  obtain ⟨hlow, hhigh⟩ := h
  by_cases hleap : isLeapYear year <;> interval_cases month <;> simp [daysInMonth, hleap]

theorem daysBeforeMonth_succ (year : Int) (month : ℕ) :
    daysBeforeMonth year (month + 1) = daysBeforeMonth year month + daysInMonth year month :=
  rfl

theorem daysBeforeMonth_one (year : Int) : daysBeforeMonth year 1 = 0 := rfl

theorem daysBeforeMonth_mono (year : Int) : Monotone (daysBeforeMonth year) :=
  monotone_nat_of_le_succ fun _ ↦ Nat.le_add_right _ _

/-- The days of a year. -/
theorem daysBeforeMonth_thirteen (year : Int) :
    daysBeforeMonth year 13 = if isLeapYear year then 366 else 365 := by
  simp only [daysBeforeMonth, daysInMonth]
  split <;> rfl

/-- The years follow one another without a gap. -/
theorem daysBeforeYear_add_one (year : Int) :
    daysBeforeYear (year + 1) = daysBeforeYear year + daysBeforeMonth year 13 := by
  have hleap : isLeapYear year = true ↔ year % 4 = 0 ∧ (year % 100 ≠ 0 ∨ year % 400 = 0) := by
    simp [isLeapYear]
  rw [daysBeforeMonth_thirteen]
  by_cases h : isLeapYear year = true
  · have hyear := hleap.1 h
    simp only [daysBeforeYear, if_pos h]
    omega
  · have hyear := mt hleap.2 h
    simp only [daysBeforeYear, if_neg h]
    omega

theorem daysBeforeYear_mono {year later : Int} (h : year ≤ later) :
    daysBeforeYear year ≤ daysBeforeYear later := by
  refine monotone_int_of_le_succ (fun year ↦ ?_) h
  rw [daysBeforeYear_add_one]
  omega

/-! ### The day after -/

/-- The day after a day that exists exists. -/
theorem isReal_next (h : d.isReal = true) : d.next.isReal = true := by
  have hday := isReal_iff.1 h
  have hmonth := month_of_isReal h
  rw [isReal_iff, next]
  split
  · exact ⟨by dsimp only; omega, ‹_›⟩
  · have hfirst {month : ℕ} (hmonth : 1 ≤ month ∧ month ≤ 12) (year : Int) :
        1 ≤ daysInMonth year month := by
      have := le_daysInMonth hmonth year
      omega
    split
    · exact ⟨le_rfl, hfirst ⟨by dsimp only; omega, by dsimp only; omega⟩ _⟩
    · exact ⟨le_rfl, hfirst ⟨le_rfl, Nat.le_add_left 1 11⟩ _⟩

/-- **The day after a day has the next number.** -/
theorem number_next (h : d.isReal = true) : d.next.number = d.number + 1 := by
  have hday := isReal_iff.1 h
  have hmonth := month_of_isReal h
  rw [next]
  split
  · simp only [number]
    omega
  · have hlast : d.day = daysInMonth d.year d.month := by omega
    split
    · simp only [number, daysBeforeMonth_succ, ← hlast]
      omega
    · have htwelve : d.month = 12 := by omega
      have hyear : daysBeforeMonth d.year 13 = daysBeforeMonth d.year d.month + d.day := by
        rw [hlast, htwelve]
        rfl
      simp only [number, daysBeforeYear_add_one, daysBeforeMonth_one, hyear]
      omega

theorem next_ne (h : d.isReal = true) : d.next ≠ d := by
  intro heq
  have hnumber := number_next h
  rw [heq] at hnumber
  omega

/-! ### Weekdays -/

theorem weekday_lt_seven (d : Date) : d.weekday < 7 := by
  rw [weekday]
  omega

/-- **The weekdays take turns.** -/
theorem weekday_next (h : d.isReal = true) : d.next.weekday = (d.weekday + 1) % 7 := by
  rw [weekday, weekday, number_next h]
  omega

/-- A Thursday in a leap year. -/
example : (Date.mk 2024 2 29).weekday = 4 := by decide

/-! ### Earlier and later days -/

/-- The number of the last day of a month and of those before is below that of the days after. -/
theorem number_le (h : d.isReal = true) :
    d.number ≤ daysBeforeYear d.year + daysBeforeMonth d.year (d.month + 1) := by
  have hday := isReal_iff.1 h
  rw [number, daysBeforeMonth_succ]
  omega

theorem number_le_year (h : d.isReal = true) : d.number ≤ daysBeforeYear (d.year + 1) := by
  have hmonth := month_of_isReal h
  have hmono := daysBeforeMonth_mono d.year (show d.month + 1 ≤ 13 by omega)
  have hnumber := number_le h
  rw [daysBeforeYear_add_one]
  omega

theorem lt_number (h : d.isReal = true) :
    daysBeforeYear d.year + daysBeforeMonth d.year d.month < d.number := by
  have hday := isReal_iff.1 h
  rw [number]
  omega

/-- **Of two days that exist the later has the larger number.** -/
theorem number_lt_number (hd : d.isReal = true) (he : e.isReal = true)
    (h : d.year < e.year ∨
      d.year = e.year ∧ (d.month < e.month ∨ d.month = e.month ∧ d.day < e.day)) :
    d.number < e.number := by
  rcases h with hyear | ⟨hyear, hmonth | ⟨hmonth, hday⟩⟩
  · have hmono := daysBeforeYear_mono (show d.year + 1 ≤ e.year by omega)
    have hd := number_le_year hd
    have he := lt_number he
    omega
  · have hmono := daysBeforeMonth_mono d.year (show d.month + 1 ≤ e.month by omega)
    have hd := number_le hd
    have he := lt_number he
    rw [← hyear] at he
    omega
  · rw [number, number, hyear, hmonth]
    omega

theorem eq_of_number_eq (hd : d.isReal = true) (he : e.isReal = true)
    (h : d.number = e.number) : d = e := by
  have hde := mt (number_lt_number hd he) (by omega)
  have hed := mt (number_lt_number he hd) (by omega)
  obtain ⟨year, month, day⟩ := d
  obtain ⟨year', month', day'⟩ := e
  rw [mk.injEq]
  dsimp only at hde hed
  omega

theorem iterate_next_first (n : ℕ) :
    (next^[n] ⟨1, 1, 1⟩).isReal = true ∧ (next^[n] ⟨1, 1, 1⟩).number = n + 1 := by
  induction n with
  | zero => decide
  | succ n ih =>
    rw [Function.iterate_succ_apply']
    refine ⟨isReal_next ih.1, ?_⟩
    rw [number_next ih.1, ih.2]
    omega

/-- The first day is a Monday, and from there on the weekdays are counted in sevens. -/
theorem weekday_iterate_next (n : ℕ) : (next^[n] ⟨1, 1, 1⟩).weekday = (n + 1) % 7 := by
  rw [weekday, (iterate_next_first n).2]
  omega

/-- **Every day from the first year on is reached from the first day**, in one step fewer than its
number says. -/
theorem eq_iterate_next (hd : d.isReal = true) (hyear : 1 ≤ d.year) :
    d = next^[(d.number - 1).toNat] ⟨1, 1, 1⟩ := by
  obtain ⟨hreal, hnumber⟩ := iterate_next_first (d.number - 1).toNat
  refine eq_of_number_eq hd hreal ?_
  have hfirst : daysBeforeYear 1 = 0 := by decide
  have hyears := daysBeforeYear_mono hyear
  have hlow := lt_number hd
  omega

end Date

namespace Moment

variable {t u : Moment}

/-! ### Earlier and later points in time -/

/-- The point in time lies on a day that exists, and a clock can show it. -/
structure IsReal (t : Moment) : Prop where
  date : t.date.isReal = true
  hour : t.hour ≤ 23
  minute : t.minute ≤ 59
  second : t.second ≤ 59
  microsecond : t.microsecond ≤ 999999

/-- What the calendar and the clock show, from the largest unit to the smallest. -/
def fields (t : Moment) : List ℤ :=
  [t.date.year, t.date.month, t.date.day, t.hour, t.minute, t.second, t.microsecond]

theorem fields_injective : Function.Injective fields := by
  rintro ⟨⟨_, _, _⟩, _, _, _, _⟩ ⟨⟨_, _, _⟩, _, _, _, _⟩ h
  simp only [fields, List.cons.injEq, Int.natCast_inj, and_true] at h
  obtain ⟨rfl, rfl, rfl, rfl, rfl, rfl, rfl⟩ := h
  rfl

/-- Points in time are compared by what the calendar and the clock show, largest unit first. -/
instance : LinearOrder Moment := LinearOrder.lift' fields fields_injective

theorem lt_iff_fields_lt : t < u ↔ t.fields < u.fields := Iff.rfl

theorem sinceMidnight_lt (h : t.IsReal) : t.sinceMidnight < microsecondsPerDay := by
  obtain ⟨-, hhour, hminute, hsecond, hmicrosecond⟩ := h
  simp only [sinceMidnight, microsecondsPerDay]
  omega

/-- What is later lies more microseconds after the eve of the first year. -/
theorem instant_lt_instant (ht : t.IsReal) (hu : u.IsReal) (h : t < u) :
    t.instant < u.instant := by
  have htday := sinceMidnight_lt ht
  have huday := sinceMidnight_lt hu
  obtain ⟨hdate, hthour, htminute, htsecond, htmicrosecond⟩ := ht
  obtain ⟨hudate, huhour, huminute, husecond, humicrosecond⟩ := hu
  simp only [lt_iff_fields_lt, fields, List.cons_lt_cons_iff, List.not_lt_nil, and_false, or_false,
    Int.ofNat_lt, Int.natCast_inj] at h
  -- either the day is later, or it is the same and the clock shows more
  have hcases : t.date.number < u.date.number ∨
      t.date.number = u.date.number ∧ t.sinceMidnight < u.sinceMidnight := by
    by_cases hsame : t.date = u.date
    · refine .inr ⟨by rw [hsame], ?_⟩
      rw [hsame] at h
      simp only [sinceMidnight]
      omega
    · refine .inl (Date.number_lt_number hdate hudate ?_)
      have hdiffers : ¬(t.date.year = u.date.year ∧ t.date.month = u.date.month ∧
          t.date.day = u.date.day) := fun heq ↦ hsame (by
        cases hd : t.date
        cases he : u.date
        simpa [hd, he] using heq)
      omega
  simp only [instant, microsecondsPerDay] at *
  omega

/-- **Points in time are ordered as the microseconds that have passed.** -/
theorem instant_lt_instant_iff (ht : t.IsReal) (hu : u.IsReal) :
    t.instant < u.instant ↔ t < u := by
  refine ⟨fun h ↦ ?_, instant_lt_instant ht hu⟩
  by_contra hnot
  rcases (not_lt.1 hnot).lt_or_eq with hlt | rfl
  · exact absurd (instant_lt_instant hu ht hlt) (by omega)
  · omega

end Moment

end Organizer
