import Mathlib.Data.List.Basic
import Organizer.Calendar.DayKey

/-!
# Days that exist

Six ASCII digits stand for a day of the present century, which may exist or not (`shownDay?`), and a
day has only one spelling of that kind (`shownDay?_injective`). Of what a person types in ASCII
exactly the days that exist are accepted (`ofText_eq_ok_iff`). That is not evident, because months
and days can be read with one digit as well, and years from 69 on are read in another century: but
what is read with one digit leaves something over, and the leap years of the two centuries agree.

Digits of other scripts are read too, so that a day that is not typed in ASCII can have two
spellings.
-/

namespace Organizer.DayKey

open Text

variable {s t : String} {date : Date}

/-! ### Spellings -/

/-- Two digits. -/
def twoDigits (n : ℕ) : List Char := [(n / 10).digitChar, (n % 10).digitChar]

/-- The day of the present century that six ASCII digits stand for. -/
def shownDay? (s : String) : Option Date :=
  match s.toList.mapM asciiDigit? with
  | some [a, b, c, d, e, f] => some ⟨(2000 + (10 * a + b) : ℕ), 10 * c + d, 10 * e + f⟩
  | _ => none

/-- Is the text six ASCII digits that stand for a day that exists? -/
def isRealDay (s : String) : Bool := (shownDay? s).any Date.isReal

theorem isRealDay_eq_true_iff :
    isRealDay s = true ↔ ∃ date, shownDay? s = some date ∧ date.isReal = true := by
  rw [isRealDay, Option.any_eq_true]

theorem mapM_asciiDigit?_eq_some {cs : List Char} {ds : List ℕ}
    (h : cs.mapM asciiDigit? = some ds) :
    cs = ds.map Nat.digitChar ∧ ∀ d ∈ ds, d < 10 := by
  induction cs generalizing ds with
  | nil =>
    cases h
    exact ⟨rfl, List.forall_mem_nil _⟩
  | cons c cs ih =>
    rw [List.mapM_cons] at h
    obtain ⟨d, hd, h⟩ := Option.bind_eq_some_iff.1 h
    obtain ⟨ds, hds, h⟩ := Option.bind_eq_some_iff.1 h
    cases h
    obtain ⟨rfl, hlt⟩ := ih hds
    rw [List.map_cons, digitChar_of_asciiDigit? hd]
    exact ⟨rfl, List.forall_mem_cons.2 ⟨lt_ten_of_asciiDigit? hd, hlt⟩⟩

theorem mapM_asciiDigit?_digitChar {ds : List ℕ} (h : ∀ d ∈ ds, d < 10) :
    (ds.map Nat.digitChar).mapM asciiDigit? = some ds := by
  induction ds with
  | nil => rfl
  | cons d ds ih =>
    obtain ⟨hd, hds⟩ := List.forall_mem_cons.1 h
    rw [List.map_cons, List.mapM_cons, asciiDigit?_digitChar hd, ih hds]
    rfl

theorem exists_mapM_asciiDigit? {cs : List Char} (h : ∀ c ∈ cs, ∃ d, asciiDigit? c = some d) :
    ∃ ds, cs.mapM asciiDigit? = some ds ∧ ds.length = cs.length := by
  induction cs with
  | nil => exact ⟨[], rfl, rfl⟩
  | cons c cs ih =>
    obtain ⟨⟨d, hd⟩, hcs⟩ := List.forall_mem_cons.1 h
    obtain ⟨ds, hds, hlength⟩ := ih hcs
    exact ⟨d :: ds, by rw [List.mapM_cons, hd, hds]; rfl, congrArg (· + 1) hlength⟩

/-- **A day that digits stand for can be spelled out again.** -/
theorem shownDay?_eq_some (h : shownDay? s = some date) :
    ∃ yy < 100, ∃ month < 100, ∃ day < 100, date = ⟨(2000 + yy : ℕ), month, day⟩ ∧
      s.toList = twoDigits yy ++ twoDigits month ++ twoDigits day := by
  rw [shownDay?] at h
  split at h
  · rename_i a b c d e f hdigits
    obtain ⟨hs, hlt⟩ := mapM_asciiDigit?_eq_some hdigits
    simp only [List.mem_cons, List.not_mem_nil, or_false, forall_eq_or_imp, forall_eq] at hlt
    obtain ⟨ha, hb, hc, hd, he, hf⟩ := hlt
    have hdiv {x y : ℕ} (hy : y < 10) : (10 * x + y) / 10 = x := by omega
    have hmod {x y : ℕ} (hy : y < 10) : (10 * x + y) % 10 = y := by omega
    refine ⟨10 * a + b, by omega, 10 * c + d, by omega, 10 * e + f, by omega,
      (Option.some.inj h).symm, ?_⟩
    rw [hs, twoDigits, twoDigits, twoDigits, hdiv hb, hdiv hd, hdiv hf, hmod hb, hmod hd, hmod hf]
    rfl
  · cases h

/-- **A day has one spelling.** -/
theorem shownDay?_injective (hs : shownDay? s = some date) (ht : shownDay? t = some date) :
    s = t := by
  obtain ⟨yy, -, month, -, day, -, rfl, hspelled⟩ := shownDay?_eq_some hs
  obtain ⟨yy', -, month', -, day', -, heq, hspelled'⟩ := shownDay?_eq_some ht
  obtain ⟨hyear, rfl, rfl⟩ := Date.mk.inj heq
  obtain rfl : yy = yy' := by omega
  exact String.toList_inj.1 (hspelled.trans hspelled'.symm)

/-! ### The choices of the stricter reading -/

/-- A month takes one character or two. -/
theorem left_of_monthChoices {cs left : List Char} {month : ℕ}
    (h : (month, left) ∈ monthChoices cs) : left = cs.drop 1 ∨ left = cs.drop 2 := by
  match cs, h with
  | [a], h =>
    rw [monthChoices, List.nil_append, List.mem_ite_nil_right, List.mem_singleton] at h
    exact .inl (Prod.mk.inj h.2).2
  | a :: b :: rest, h =>
    rw [monthChoices, List.mem_append, List.mem_ite_nil_right, List.mem_singleton] at h
    rcases h with h | ⟨-, h⟩
    · split at h
      · exact .inr (Prod.mk.inj (List.mem_singleton.1 h)).2
      · rw [List.mem_ite_nil_right, List.mem_singleton] at h
        exact .inr (Prod.mk.inj h.2).2
    · exact .inl (Prod.mk.inj h).2

/-- A day takes one character or two. -/
theorem left_of_dayChoices {cs left : List Char} {day : ℕ} (h : (day, left) ∈ dayChoices cs) :
    left = cs.drop 1 ∨ left = cs.drop 2 := by
  match cs, h with
  | [a], h =>
    rw [dayChoices, List.nil_append, List.mem_ite_nil_right, List.mem_singleton] at h
    exact .inl (Prod.mk.inj h.2).2
  | a :: b :: rest, h =>
    rw [dayChoices, List.mem_append, List.mem_ite_nil_right, List.mem_singleton] at h
    rcases h with h | ⟨-, h⟩
    · split at h
      · exact .inr (Prod.mk.inj (List.mem_singleton.1 h)).2
      · split at h
        · exact .inr (Prod.mk.inj (List.mem_singleton.1 h)).2
        · rw [List.mem_ite_nil_right, List.mem_singleton] at h
          exact .inr (Prod.mk.inj h.2).2
    · exact .inl (Prod.mk.inj h).2

/-- What follows two digits does not matter for the month. -/
theorem monthChoices_append (n : ℕ) (rest : List Char) :
    monthChoices (twoDigits n ++ rest) =
      (monthChoices (twoDigits n)).map fun x ↦ (x.1, x.2 ++ rest) := by
  simp only [twoDigits, List.cons_append, List.nil_append, monthChoices, List.map_append]
  congr 1
  · split
    · rfl
    · split <;> rfl
  · split <;> rfl

theorem monthChoices_twoDigits {month : ℕ} (h : month < 100) (rest : List Char) :
    monthChoices (twoDigits month ++ rest) =
      (if 1 ≤ month ∧ month ≤ 12 then [(month, rest)] else []) ++
        if 10 ≤ month then [(month / 10, (month % 10).digitChar :: rest)] else [] := by
  have hchoices : ∀ month < 100, monthChoices (twoDigits month) =
      (if 1 ≤ month ∧ month ≤ 12 then [(month, [])] else []) ++
        if 10 ≤ month then [(month / 10, [(month % 10).digitChar])] else [] := by
    decide +kernel
  rw [monthChoices_append, hchoices month h, List.map_append]
  congr 1 <;> split <;> rfl

theorem dayChoices_twoDigits : ∀ day < 100, dayChoices (twoDigits day) =
    (if 1 ≤ day ∧ day ≤ 31 then [(day, [])] else []) ++
      if 10 ≤ day then [(day / 10, [(day % 10).digitChar])] else [] := by
  decide +kernel

/-- The months and days that the front of a text can be read as, with what is left over. -/
def choices (cs : List Char) : List (ℕ × ℕ × List Char) :=
  (monthChoices cs).flatMap fun (month, rest) ↦
    (dayChoices rest).map fun (day, rest) ↦ (month, day, rest)

/-- At most two characters are read for the month and two for the day. -/
theorem length_of_choices {cs left : List Char} {month day : ℕ}
    (h : (month, day, left) ∈ choices cs) : cs.length ≤ left.length + 4 := by
  obtain ⟨⟨_, rest⟩, hmonth, h⟩ := List.mem_flatMap.1 h
  obtain ⟨⟨_, _⟩, hday, heq⟩ := List.mem_map.1 h
  cases heq
  rcases left_of_monthChoices hmonth with rfl | rfl <;>
    rcases left_of_dayChoices hday with rfl | rfl <;>
    · simp only [List.length_drop]
      omega

/-- **Only what is read with two digits each leaves nothing over.** -/
theorem choices_twoDigits {month day : ℕ} (hmonth : month < 100) (hday : day < 100) :
    ∃ more, choices (twoDigits month ++ twoDigits day) =
        (if (1 ≤ month ∧ month ≤ 12) ∧ 1 ≤ day ∧ day ≤ 31 then [(month, day, [])] else []) ++
          more ∧
      ∀ x ∈ more, x.2.2 ≠ [] := by
  rw [choices, monthChoices_twoDigits hmonth, List.flatMap_append]
  -- a month of one digit leaves three, of which a day takes two at most
  have hone : ∀ x ∈ (if 10 ≤ month then
      [(month / 10, (month % 10).digitChar :: twoDigits day)] else []).flatMap
        fun (month, rest) ↦ (dayChoices rest).map fun (day, rest) ↦ (month, day, rest),
      x.2.2 ≠ [] := by
    intro x hx
    obtain ⟨⟨_, rest⟩, hrest, hx⟩ := List.mem_flatMap.1 hx
    obtain ⟨⟨_, left⟩, hleft, rfl⟩ := List.mem_map.1 hx
    rw [List.mem_ite_nil_right, List.mem_singleton] at hrest
    cases hrest.2
    rcases left_of_dayChoices hleft with rfl | rfl <;> exact List.cons_ne_nil _ _
  by_cases hvalid : 1 ≤ month ∧ month ≤ 12
  · -- a day of one digit leaves the other
    simp only [hvalid, true_and, if_true, List.flatMap_singleton, dayChoices_twoDigits day hday,
      List.map_append, List.append_assoc]
    refine ⟨_, congrArg₂ _ ?_ rfl, fun x hx ↦ ?_⟩
    · split <;> rfl
    · rcases List.mem_append.1 hx with hx | hx
      · obtain ⟨⟨_, left⟩, hleft, rfl⟩ := List.mem_map.1 hx
        rw [List.mem_ite_nil_right, List.mem_singleton] at hleft
        cases hleft.2
        exact List.cons_ne_nil _ _
      · exact hone x hx
  · exact ⟨_, by simp [hvalid], hone⟩

/-! ### Reading a day -/

theorem readDay?_cons_cons (a b : Char) (rest : List Char) :
    readDay? (a :: b :: rest) =
      match digitValue? a, digitValue? b with
      | some tens, some ones =>
        match choices rest with
        | (month, day, []) :: _ => some ⟨fullYear (10 * tens + ones), month, day⟩
        | _ => none
      | _, _ => none :=
  rfl

/-- Nothing is read of a text with more than six characters. -/
theorem length_of_readDay? {cs : List Char} (h : readDay? cs = some date) : cs.length ≤ 6 := by
  match cs, h with
  | a :: b :: rest, h =>
    rw [readDay?_cons_cons] at h
    split at h
    · split at h
      · rename_i month day more hchoices
        have hmem : (month, day, []) ∈ choices rest := hchoices ▸ List.mem_cons_self
        have hlength := length_of_choices hmem
        rw [List.length_nil] at hlength
        rw [List.length_cons, List.length_cons]
        omega
      · cases h
    · cases h

/-- **What the stricter reading makes of six digits.** -/
theorem readDay?_twoDigits {yy month day : ℕ} (hyy : yy < 100) (hmonth : month < 100)
    (hday : day < 100) :
    readDay? (twoDigits yy ++ twoDigits month ++ twoDigits day) =
      if (1 ≤ month ∧ month ≤ 12) ∧ 1 ≤ day ∧ day ≤ 31 then some ⟨fullYear yy, month, day⟩
      else none := by
  have hvalue : ∀ d < 10, digitValue? d.digitChar = some d := by decide +kernel
  obtain ⟨more, hchoices, hmore⟩ := choices_twoDigits hmonth hday
  rw [List.append_assoc, twoDigits, List.cons_append, List.cons_append, List.nil_append,
    readDay?_cons_cons, hvalue _ (by omega), hvalue _ (by omega), hchoices]
  have hvalues : 10 * (yy / 10) + yy % 10 = yy := by omega
  by_cases hvalid : (1 ≤ month ∧ month ≤ 12) ∧ 1 ≤ day ∧ day ≤ 31
  · rw [if_pos hvalid, if_pos hvalid]
    dsimp only [List.cons_append]
    rw [hvalues]
  · rw [if_neg hvalid, if_neg hvalid, List.nil_append]
    dsimp only
    split
    · exact absurd rfl (hmore _ List.mem_cons_self)
    · rfl

/-! ### What is accepted -/

theorem daysInMonth_le (year : Int) (month : ℕ) : daysInMonth year month ≤ 31 := by
  unfold daysInMonth
  split
  case h_12 => split <;> decide
  all_goals decide

theorem daysInMonth_eq_zero {month : ℕ} (h : ¬(1 ≤ month ∧ month ≤ 12)) (year : Int) :
    daysInMonth year month = 0 := by
  unfold daysInMonth
  split <;> first | rfl | omega

/-- The century of a year is of no account to whether a day exists. -/
theorem isReal_fullYear {yy : ℕ} (hyy : yy < 100) (month day : ℕ) :
    (Date.mk (fullYear yy) month day).isReal = (Date.mk (2000 + yy : ℕ) month day).isReal := by
  have hleap : ∀ yy < 100, isLeapYear (fullYear yy) = isLeapYear (2000 + yy : ℕ) := by
    decide +kernel
  rw [Date.isReal, Date.isReal]
  unfold daysInMonth
  rw [hleap yy hyy]

theorem isDigits_of_shownDay? (h : shownDay? s = some date) : isDigits 6 s.toList = true := by
  obtain ⟨yy, hyy, month, hmonth, day, hday, -, hs⟩ := shownDay?_eq_some h
  have hdigit : ∀ d < 10, isDigit d.digitChar = true := by decide +kernel
  have hdigits (n : ℕ) (hn : n < 100) : ∀ c ∈ twoDigits n, isDigit c = true := by
    simp only [twoDigits, List.mem_cons, List.not_mem_nil, or_false, forall_eq_or_imp, forall_eq]
    exact ⟨hdigit _ (by omega), hdigit _ (by omega)⟩
  have hall : ∀ c ∈ s.toList, isDigit c = true := by
    rw [hs]
    intro c hc
    rcases List.mem_append.1 hc with hc | hc
    · rcases List.mem_append.1 hc with hc | hc
      · exact hdigits yy hyy c hc
      · exact hdigits month hmonth c hc
    · exact hdigits day hday c hc
  have hlength : s.toList.length = 6 := by rw [hs]; rfl
  rw [isDigits, List.take_of_length_le (Nat.le_of_eq hlength),
    List.drop_of_length_le (Nat.le_of_eq hlength), hlength,
    List.all_eq_true.2 hall]
  rfl

/-- Six digits are accepted if the day exists. -/
theorem ofText_of_shownDay? (h : shownDay? s = some date) :
    ofText s = if date.isReal then .ok (Store.dayPrefix ++ s)
      else .error (.refused (.unrealDay s)) := by
  have hdigits := isDigits_of_shownDay? h
  obtain ⟨yy, hyy, month, hmonth, day, hday, rfl, hs⟩ := shownDay?_eq_some h
  rw [ofText, hdigits, Bool.not_true, if_neg (by simp), hs, readDay?_twoDigits hyy hmonth hday]
  by_cases hvalid : (1 ≤ month ∧ month ≤ 12) ∧ 1 ≤ day ∧ day ≤ 31
  · rw [if_pos hvalid]
    dsimp only
    rw [isReal_fullYear hyy]
  · have hunreal : (Date.mk (2000 + yy : ℕ) month day).isReal = false := by
      rw [Date.isReal, Bool.and_eq_false_iff, decide_eq_false_iff_not, decide_eq_false_iff_not]
      by_contra hreal
      rw [not_or, not_not, not_not] at hreal
      refine hvalid ⟨?_, hreal.1, Nat.le_trans hreal.2 (daysInMonth_le _ _)⟩
      by_contra hmonth
      rw [daysInMonth_eq_zero hmonth] at hreal
      omega
    rw [if_neg hvalid, hunreal]
    rfl

/-- A digit stands at most nine places behind the zero of its script. -/
theorem exists_zero_of_isDigit {c : Char} (h : isDigit c = true) :
    ∃ z ∈ digitZeros, ∃ d < 10, c.toNat = z + d := by
  obtain ⟨d, hd⟩ := Option.isSome_iff_exists.1 h
  obtain ⟨z, hfind, -⟩ := Option.map_eq_some_iff.1 hd
  have hrange := List.find?_some hfind
  rw [Bool.and_eq_true, decide_eq_true_iff, decide_eq_true_iff] at hrange
  exact ⟨z, List.mem_of_find?_eq_some hfind, c.toNat - z, by omega, by omega⟩

/-- The only digits in ASCII are the ASCII digits. -/
theorem asciiDigit?_of_isDigit {c : Char} (hc : c.toNat < 128) (h : isDigit c = true) :
    ∃ d, asciiDigit? c = some d := by
  have hzeros : ∀ z ∈ digitZeros, z < 128 → z = 48 := by decide
  obtain ⟨z, hz, d, hd, heq⟩ := exists_zero_of_isDigit h
  obtain rfl := hzeros z hz (by omega)
  have hlow : 48 ≤ c.toNat := by omega
  have hhigh : c.toNat ≤ 57 := by omega
  exact ⟨_, if_pos ⟨hlow, hhigh⟩⟩

/-- Whatever is accepted is six digits, of any script. -/
theorem digits_of_ofText {key : String} (h : ofText s = .ok key) :
    key = Store.dayPrefix ++ s ∧ s.toList.length = 6 ∧ ∀ c ∈ s.toList, isDigit c = true := by
  rw [ofText] at h
  split at h
  · cases h
  · rename_i hdigits
    rw [Bool.not_eq_true', Bool.not_eq_false, isDigits, Bool.and_eq_true, Bool.and_eq_true,
      beq_iff_eq, List.all_eq_true] at hdigits
    split at h
    · rename_i hread
      have hshort := length_of_readDay? hread
      have hlength : s.toList.length = 6 := by
        have htake := hdigits.1.1
        rw [List.length_take] at htake
        omega
      have hall := hdigits.1.2
      rw [List.take_of_length_le (Nat.le_of_eq hlength)] at hall
      split at h <;> cases h
      exact ⟨rfl, hlength, hall⟩
    · cases h

/-- Six ASCII digits stand for a day. -/
theorem exists_shownDay?_of_digits (hlength : s.toList.length = 6)
    (h : ∀ c ∈ s.toList, ∃ d, asciiDigit? c = some d) : ∃ date, shownDay? s = some date := by
  obtain ⟨ds, hds, hcount⟩ := exists_mapM_asciiDigit? h
  rw [hlength] at hcount
  match ds, hcount with
  | [_, _, _, _, _, _], _ => exact ⟨_, by rw [shownDay?, hds]⟩

/-- Of whatever is accepted a day can be made, if it is typed in ASCII. -/
theorem exists_shownDay?_of_ofText {key : String} (hascii : ∀ c ∈ s.toList, c.toNat < 128)
    (h : ofText s = .ok key) : ∃ date, shownDay? s = some date := by
  obtain ⟨-, hlength, hall⟩ := digits_of_ofText h
  exact exists_shownDay?_of_digits hlength fun c hc ↦
    asciiDigit?_of_isDigit (hascii c hc) (hall c hc)

/-- **Of what is typed in ASCII, exactly the days that exist are accepted.** -/
theorem ofText_eq_ok_iff {key : String} (hascii : ∀ c ∈ s.toList, c.toNat < 128) :
    ofText s = .ok key ↔ isRealDay s = true ∧ key = Store.dayPrefix ++ s := by
  rw [isRealDay_eq_true_iff]
  constructor
  · intro h
    obtain ⟨date, hshown⟩ := exists_shownDay?_of_ofText hascii h
    rw [ofText_of_shownDay? hshown] at h
    split at h <;> cases h
    exact ⟨⟨date, hshown, ‹_›⟩, rfl⟩
  · rintro ⟨⟨date, hshown, hreal⟩, rfl⟩
    rw [ofText_of_shownDay? hshown, if_pos hreal]

end Organizer.DayKey
