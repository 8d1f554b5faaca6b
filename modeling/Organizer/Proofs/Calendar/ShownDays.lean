import Organizer.Proofs.Calendar.RealDays
import Organizer.Proofs.Json.Numbers

/-!
# Days as they are shown

A day is shown by cutting its text in three and putting the century in front, and it is accepted by
a reading that has another century in mind. Both come to the same for six ASCII digits: what is
shown is the international form of the day that the digits stand for (`pretty_of_shownDay?`), and no
other date has this form (`Date.dashed_inj`). So the days that are accepted are those that are shown
as a date that exists.
-/

namespace Organizer

open Text Number Json

variable {s : String} {date other : Date}

/-! ### The international form -/

/-- The international form of a date. -/
def Date.dashed (date : Date) : String :=
  Moment.padded 4 date.year.toNat ++ "-" ++ Moment.padded 2 date.month ++ "-" ++
    Moment.padded 2 date.day

namespace Moment

/-- The digits of a padded number. -/
def paddedDigits (places n : ℕ) : List ℕ :=
  List.replicate (places - (digits n).length) 0 ++ digits n

theorem toList_padded (places n : ℕ) :
    (padded places n).toList = (paddedDigits places n).map Nat.digitChar := by
  rw [padded, String.toList_ofList, writeNat, List.length_map, paddedDigits, List.map_append,
    List.map_replicate]
  rfl

theorem lt_ten_of_mem_paddedDigits {places n d : ℕ} (h : d ∈ paddedDigits places n) : d < 10 := by
  rcases List.mem_append.1 h with h | h
  · rw [List.eq_of_mem_replicate h]
    decide
  · exact lt_ten_of_mem_digits h

theorem ofDigits_paddedDigits (places n : ℕ) : ofDigits (paddedDigits places n) = n := by
  rw [paddedDigits, ofDigits_append, ofDigits_replicate_zero, Nat.zero_mul, Nat.zero_add,
    ofDigits_digits]

/-- A padded number can be read. -/
theorem padded_injective (places : ℕ) : Function.Injective (padded places) := by
  have hread (n : ℕ) :
      (padded places n).toList.mapM asciiDigit? = some (paddedDigits places n) := by
    rw [toList_padded, DayKey.mapM_asciiDigit?_digitChar fun d ↦ lt_ten_of_mem_paddedDigits]
  intro m n h
  have hdigits := hread m
  rw [h, hread n] at hdigits
  rw [← ofDigits_paddedDigits places m, ← Option.some.inj hdigits, ofDigits_paddedDigits]

theorem dash_notMem_padded (places n : ℕ) : '-' ∉ (padded places n).toList := by
  have hdigit : ∀ d < 10, Nat.digitChar d ≠ '-' := by decide
  rw [toList_padded]
  intro h
  obtain ⟨d, hd, heq⟩ := List.mem_map.1 h
  exact hdigit d (lt_ten_of_mem_paddedDigits hd) heq

theorem toList_padded_two {n : ℕ} (hn : n < 100) : (padded 2 n).toList = DayKey.twoDigits n := by
  rw [toList_padded, paddedDigits, DayKey.twoDigits]
  by_cases hsmall : n < 10
  · rw [digits_of_lt hsmall, Nat.div_eq_of_lt hsmall, Nat.mod_eq_of_lt hsmall]
    rfl
  · rw [digits_of_ge (Nat.not_lt.1 hsmall), digits_of_lt (by omega)]
    rfl

/-- A year of the present century. -/
theorem toList_padded_four {yy : ℕ} (hyy : yy < 100) :
    (padded 4 (2000 + yy)).toList = '2' :: '0' :: DayKey.twoDigits yy := by
  have hdigits : digits (2000 + yy) = [2, 0, yy / 10, yy % 10] := by
    rw [digits_of_ge (by omega), show (2000 + yy) / 10 = 200 + yy / 10 by omega,
      show (2000 + yy) % 10 = yy % 10 by omega, digits_of_ge (by omega),
      show (200 + yy / 10) / 10 = 20 by omega, show (200 + yy / 10) % 10 = yy / 10 by omega,
      digits_of_ge (by omega), digits_of_lt (by omega)]
    rfl
  rw [toList_padded, paddedDigits, hdigits, DayKey.twoDigits]
  rfl

end Moment

/-- What stands in front of a separator is known from the text. -/
theorem append_cons_inj {α : Type} {x : α} {as bs as' bs' : List α} (hx : x ∉ as) (hx' : x ∉ as')
    (h : as ++ x :: bs = as' ++ x :: bs') : as = as' ∧ bs = bs' := by
  induction as generalizing as' with
  | nil =>
    cases as' with
    | nil => exact ⟨rfl, List.tail_eq_of_cons_eq h⟩
    | cons a as' => exact absurd (List.cons.inj h).1 (List.ne_of_not_mem_cons hx')
  | cons a as ih =>
    cases as' with
    | nil => exact absurd (List.cons.inj h).1.symm (List.ne_of_not_mem_cons hx)
    | cons a' as' =>
      obtain ⟨rfl, htail⟩ := List.cons.inj h
      obtain ⟨rfl, hbs⟩ :=
        ih (List.not_mem_of_not_mem_cons hx) (List.not_mem_of_not_mem_cons hx') htail
      exact ⟨rfl, hbs⟩

namespace Date

theorem toList_dashed (date : Date) : date.dashed.toList =
    (Moment.padded 4 date.year.toNat).toList ++ '-' ::
      ((Moment.padded 2 date.month).toList ++ '-' :: (Moment.padded 2 date.day).toList) := by
  simp [dashed]

/-- **A date is known from its international form.** -/
theorem dashed_inj (hyear : 1 ≤ date.year) (h : date.dashed = other.dashed) : date = other := by
  have hlist := congrArg String.toList h
  rw [toList_dashed, toList_dashed] at hlist
  obtain ⟨hyears, hrest⟩ := append_cons_inj (Moment.dash_notMem_padded _ _)
    (Moment.dash_notMem_padded _ _) hlist
  obtain ⟨hmonths, hdays⟩ := append_cons_inj (Moment.dash_notMem_padded _ _)
    (Moment.dash_notMem_padded _ _) hrest
  have heq := Moment.padded_injective 4 (String.toList_inj.1 hyears)
  have hmonth := Moment.padded_injective 2 (String.toList_inj.1 hmonths)
  have hday := Moment.padded_injective 2 (String.toList_inj.1 hdays)
  obtain ⟨year, month, day⟩ := date
  obtain ⟨year', month', day'⟩ := other
  obtain rfl : month = month' := hmonth
  obtain rfl : day = day' := hday
  obtain rfl : year = year' := by
    change 1 ≤ year at hyear
    change year.toNat = year'.toNat at heq
    omega
  rfl

end Date

namespace DayKey

/-! ### What is shown -/

/-- A day is shown in the international form. -/
theorem pretty_of_shownDay? (h : shownDay? s = some date) : pretty s = date.dashed := by
  obtain ⟨yy, hyy, month, hmonth, day, hday, rfl, hs⟩ := shownDay?_eq_some h
  rw [← String.toList_inj, Date.toList_dashed, Moment.toList_padded_two hmonth,
    Moment.toList_padded_two hday, Int.toNat_natCast, Moment.toList_padded_four hyy, pretty, hs]
  simp [twoDigits]

/-- The text is six ASCII digits. -/
def IsSixDigits (s : String) : Prop := s.length = 6 ∧ ∀ c ∈ s.toList, c.isDigit = true

theorem isDigit_digitChar {d : ℕ} (hd : d < 10) : (Nat.digitChar d).isDigit = true := by
  revert d
  decide

theorem exists_asciiDigit? {c : Char} (h : c.isDigit = true) : ∃ d, asciiDigit? c = some d := by
  rw [Char.isDigit, Bool.and_eq_true, decide_eq_true_iff, decide_eq_true_iff] at h
  exact ⟨_, if_pos h⟩

/-- Six ASCII digits stand for a day, and nothing else does. -/
theorem exists_shownDay?_iff : (∃ date, shownDay? s = some date) ↔ IsSixDigits s := by
  constructor
  · rintro ⟨date, h⟩
    rw [shownDay?] at h
    split at h
    · rename_i hdigits
      obtain ⟨hs, hlt⟩ := mapM_asciiDigit?_eq_some hdigits
      refine ⟨by rw [← String.length_toList, hs]; rfl, fun c hc ↦ ?_⟩
      rw [hs] at hc
      obtain ⟨d, hd, rfl⟩ := List.mem_map.1 hc
      exact isDigit_digitChar (hlt d hd)
    · cases h
  · rintro ⟨hlength, hall⟩
    exact exists_shownDay?_of_digits (String.length_toList.trans hlength) fun c hc ↦
      exists_asciiDigit? (hall c hc)

/-- The text is shown as a date that exists. -/
def ShowsRealDate (s : String) : Prop := ∃ date : Date, date.isReal = true ∧ pretty s = date.dashed

/-- Six digits are shown as a date that exists if the day that they stand for exists. -/
theorem isRealDay_iff : isRealDay s = true ↔ IsSixDigits s ∧ ShowsRealDate s := by
  rw [isRealDay_eq_true_iff]
  constructor
  · rintro ⟨date, hshown, hreal⟩
    exact ⟨exists_shownDay?_iff.1 ⟨date, hshown⟩, date, hreal, pretty_of_shownDay? hshown⟩
  · rintro ⟨hsix, date, hreal, hpretty⟩
    -- the date that is shown can only be the one that the digits stand for
    obtain ⟨shown, hshown⟩ := exists_shownDay?_iff.2 hsix
    have hyear : 1 ≤ shown.year := by
      obtain ⟨yy, -, month, -, day, -, rfl, -⟩ := shownDay?_eq_some hshown
      exact Int.ofNat_le.2 (show 1 ≤ 2000 + yy by omega)
    obtain rfl := Date.dashed_inj hyear ((pretty_of_shownDay? hshown).symm.trans hpretty)
    exact ⟨shown, hshown, hreal⟩

/-- What is not accepted is refused for its form or for its day. -/
theorem ofText_eq_error (h : ∀ key, ofText s ≠ .ok key) :
    ofText s = .error (.refused .malformedDay) ∨ ofText s = .error (.refused (.unrealDay s)) := by
  rw [ofText] at h ⊢
  by_cases hform : isDigits 6 s.toList = true
  · rw [hform, Bool.not_true, if_neg Bool.false_ne_true] at h ⊢
    -- the form is that of a day, but there is no such day
    right
    split
    · rename_i hread
      rw [hread] at h
      dsimp only at h
      split at h
      · exact absurd rfl (h _)
      · exact if_neg ‹_›
    · rfl
  · exact .inl (if_pos (by simpa using hform))

end DayKey

/-- **The days that are accepted are those that are shown as a date that exists**, of all that is
typed in ASCII; the key of the day is its text behind a prefix. All else is refused. -/
theorem accepted_days_shown {s : String} (hascii : ∀ c ∈ s.toList, c.toNat < 128) :
    (∀ key, DayKey.ofText s = .ok key ↔
      (DayKey.IsSixDigits s ∧ DayKey.ShowsRealDate s) ∧ key = "cal-" ++ s) ∧
    (¬ (DayKey.IsSixDigits s ∧ DayKey.ShowsRealDate s) →
      DayKey.ofText s = .error (.refused .malformedDay) ∨
        DayKey.ofText s = .error (.refused (.unrealDay s))) := by
  have haccepted (key : String) : DayKey.ofText s = .ok key ↔
      (DayKey.IsSixDigits s ∧ DayKey.ShowsRealDate s) ∧ key = "cal-" ++ s := by
    rw [DayKey.ofText_eq_ok_iff hascii, DayKey.isRealDay_iff]
    rfl
  refine ⟨haccepted, fun hunreal ↦ DayKey.ofText_eq_error fun key hkey ↦ ?_⟩
  exact hunreal ((haccepted key).1 hkey).1

/-- A leap day that is read in the past century and shown in this one. -/
theorem accepted_days_shown_leap_day :
    (∀ c ∈ "960229".toList, c.toNat < 128) ∧
      DayKey.readDay? "960229".toList = some ⟨1996, 2, 29⟩ ∧
      DayKey.pretty "960229" = (Date.mk 2096 2 29).dashed ∧
      DayKey.ofText "960229" = .ok "cal-960229" := by
  have hascii : ∀ c ∈ "960229".toList, c.toNat < 128 := by simp
  have hpretty : DayKey.pretty "960229" = (Date.mk 2096 2 29).dashed :=
    DayKey.pretty_of_shownDay? (by decide +kernel)
  have hsix : DayKey.IsSixDigits "960229" := ⟨by decide, by simp⟩
  exact ⟨hascii, by decide +kernel, hpretty,
    ((accepted_days_shown hascii).1 "cal-960229").2
      ⟨⟨hsix, ⟨2096, 2, 29⟩, by decide +kernel, hpretty⟩, rfl⟩⟩

end Organizer
