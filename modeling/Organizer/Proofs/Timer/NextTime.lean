import Mathlib.Order.Bounds.Basic
import Organizer.App
import Organizer.Proofs.Action.Performing
import Organizer.Proofs.Calendar.Order
import Organizer.Proofs.Number.Nearest

/-!
# The next occurrence of a time of day

What is read as a time of day is described by its parts (`readClock?_eq_some_iff`). Its next
occurrence is the least of all points in time that are still to come and at which a clock shows just
that hour and minute (`isLeast_of_nextAt`). A minute that has begun is past, even in its first
microsecond, so that the next occurrence may be a whole day ahead but never more.

A reminder waits for the distance to the next occurrence. The distance is counted in microseconds
and exact; only the delay in seconds is rounded, once, to a double (`exists_decode_delayBetween`).
-/

namespace Organizer

open Text

namespace Timer

variable {cs : List Char} {hour minute : ℕ}

/-! ### What is read -/

/-- The text shows an hour and a minute: one or two digits, a colon, two digits, and perhaps a line
break. The digits may be of any script, and the hour and the minute need not exist. -/
inductive Shows : List Char → ℕ → ℕ → Prop
  | intro {hs ms ending : List Char} {hour minute : ℕ}
      (hour_length : hs.length = 1 ∨ hs.length = 2) (hour_value : natOfDigits? hs = some hour)
      (minute_length : ms.length = 2) (minute_value : natOfDigits? ms = some minute)
      (ending_eq : ending = [] ∨ ending = ['\n']) :
      Shows (hs ++ ':' :: (ms ++ ending)) hour minute

theorem natOfDigits?_singleton (a : Char) : natOfDigits? [a] = digitValue? a := by
  rw [natOfDigits?, List.mapM_cons]
  cases digitValue? a with
  | none => rfl
  | some d => exact congrArg some (Nat.zero_add d)

theorem natOfDigits?_pair_colon (a : Char) : natOfDigits? [a, ':'] = none := by
  have hcolon : digitValue? ':' = none := by decide +kernel
  rw [natOfDigits?, List.mapM_cons, List.mapM_cons, hcolon]
  cases digitValue? a <;> rfl

theorem atEnd_iff : DayKey.atEnd cs = true ↔ cs = [] ∨ cs = ['\n'] := by
  unfold DayKey.atEnd
  split <;> simp_all

theorem minuteAfterColon?_eq_some_iff :
    minuteAfterColon? cs = some minute ↔
      ∃ ms ending, cs = ms ++ ending ∧ ms.length = 2 ∧ natOfDigits? ms = some minute ∧
        (ending = [] ∨ ending = ['\n']) := by
  constructor
  · intro h
    match cs, h with
    | a :: b :: rest, h =>
      rw [minuteAfterColon?] at h
      split at h
      · rename_i hend
        exact ⟨[a, b], rest, rfl, rfl, h, atEnd_iff.1 hend⟩
      · cases h
  · rintro ⟨ms, ending, rfl, hlength, hvalue, hend⟩
    match ms, hlength with
    | [a, b], _ =>
      show (if DayKey.atEnd ending then natOfDigits? [a, b] else none) = some minute
      rw [if_pos (atEnd_iff.2 hend), hvalue]

theorem readClock?_one (a : Char) (rest : List Char) :
    readClock? (a :: ':' :: rest) =
      (natOfDigits? [a]).bind fun hour ↦ (minuteAfterColon? rest).bind fun minute ↦
        some (hour, minute) := by
  rw [natOfDigits?_singleton]
  rfl

theorem readClock?_two {b : Char} (hb : b ≠ ':') (a : Char) (rest : List Char) :
    readClock? (a :: b :: ':' :: rest) =
      (natOfDigits? [a, b]).bind fun hour ↦ (minuteAfterColon? rest).bind fun minute ↦
        some (hour, minute) := by
  rw [readClock?]
  · rfl
  · exact fun hcolon ↦ hb hcolon

/-- **What is read as a time of day.** -/
theorem readClock?_eq_some_iff :
    readClock? cs = some (hour, minute) ↔ Shows cs hour minute := by
  -- an hour of either length is followed by the same
  have hread {hs rest : List Char} (hlength : hs.length = 1 ∨ hs.length = 2)
      (h : ((natOfDigits? hs).bind fun hour ↦ (minuteAfterColon? rest).bind fun minute ↦
        some (hour, minute)) = some (hour, minute)) : Shows (hs ++ ':' :: rest) hour minute := by
    obtain ⟨_, hhour, h⟩ := Option.bind_eq_some_iff.1 h
    obtain ⟨_, hminute, h⟩ := Option.bind_eq_some_iff.1 h
    cases h
    obtain ⟨ms, ending, rfl, hms, hvalue, hend⟩ := minuteAfterColon?_eq_some_iff.1 hminute
    exact .intro hlength hhour hms hvalue hend
  constructor
  · intro h
    unfold readClock? at h
    split at h
    · rename_i a rest
      exact @hread [a] rest (.inl rfl) ((readClock?_one a rest).symm.trans h)
    · rename_i a b rest _
      exact @hread [a, b] rest (.inr rfl) h
    · cases h
  · rintro ⟨hlength, hhour, hms, hvalue, hend⟩
    rename_i hs ms ending
    have hminute := minuteAfterColon?_eq_some_iff.2 ⟨ms, ending, rfl, hms, hvalue, hend⟩
    match hs, hlength with
    | [a], _ =>
      rw [List.singleton_append, readClock?_one, hhour, Option.bind_some, hminute]
      rfl
    | [a, b], _ =>
      have hb : b ≠ ':' := by
        rintro rfl
        rw [natOfDigits?_pair_colon] at hhour
        cases hhour
      rw [List.cons_append, List.singleton_append, readClock?_two hb, hhour, Option.bind_some,
        hminute]
      rfl

theorem digitValue?_of_asciiDigit? {c : Char} {d : ℕ} (h : asciiDigit? c = some d) :
    digitValue? c = some d := by
  have hvalue : ∀ d < 10, digitValue? d.digitChar = some d := by decide +kernel
  rw [← digitChar_of_asciiDigit? h]
  exact hvalue d (lt_ten_of_asciiDigit? h)

theorem natOfDigits?_of_mapM_asciiDigit? {ds : List ℕ} (h : cs.mapM asciiDigit? = some ds) :
    natOfDigits? cs = some (ofDigits ds) := by
  suffices hmap : cs.mapM digitValue? = some ds by rw [natOfDigits?, hmap, Option.map_some]
  induction cs generalizing ds with
  | nil => exact h
  | cons c cs ih =>
    rw [List.mapM_cons] at h ⊢
    obtain ⟨d, hd, h⟩ := Option.bind_eq_some_iff.1 h
    obtain ⟨ds, hds, h⟩ := Option.bind_eq_some_iff.1 h
    cases h
    rw [digitValue?_of_asciiDigit? hd, ih hds]
    rfl

/-! ### The next occurrence -/

variable {now target : Moment} {typed : String}

/-- The points in time to come at which a clock shows an hour and a minute and no more. -/
def occurrences (now : Moment) (hour minute : ℕ) : Set Moment :=
  {t | t.IsReal ∧ t.hour = hour ∧ t.minute = minute ∧ t.second = 0 ∧ t.microsecond = 0 ∧ now < t}

/-- The next occurrence is today or tomorrow. -/
theorem nextAt_eq_ok (hnext : now.date.next.year ≤ Date.maxYear)
    (h : nextAt now hour minute = .ok target) :
    let today : Moment := ⟨now.date, hour, minute, 0, 0⟩
    now.sinceMidnight < today.sinceMidnight ∧ target = today ∨
      today.sinceMidnight ≤ now.sinceMidnight ∧ target = { today with date := now.date.next } := by
  rw [nextAt, if_pos hnext] at h
  split at h <;> cases h
  · exact .inl ⟨‹_›, rfl⟩
  · exact .inr ⟨not_lt.1 ‹_›, rfl⟩

theorem exists_nextAt_eq_ok (hnext : now.date.next.year ≤ Date.maxYear) (hour minute : ℕ) :
    ∃ target, nextAt now hour minute = .ok target := by
  rw [nextAt, if_pos hnext]
  split
  · exact ⟨_, rfl⟩
  · exact ⟨_, rfl⟩

theorem fields_of_nextAt (hnext : now.date.next.year ≤ Date.maxYear)
    (h : nextAt now hour minute = .ok target) :
    target.hour = hour ∧ target.minute = minute ∧ target.second = 0 ∧ target.microsecond = 0 ∧
      (target.date = now.date ∨ target.date = now.date.next) := by
  rcases nextAt_eq_ok hnext h with ⟨-, rfl⟩ | ⟨-, rfl⟩
  · exact ⟨rfl, rfl, rfl, rfl, .inl rfl⟩
  · exact ⟨rfl, rfl, rfl, rfl, .inr rfl⟩

section Next

variable (hnow : now.IsReal) (hnext : now.date.next.year ≤ Date.maxYear) (hhour : hour ≤ 23)
  (hminute : minute ≤ 59) (h : nextAt now hour minute = .ok target)

include hnow hnext hhour hminute h

theorem isReal_of_nextAt : target.IsReal := by
  rcases nextAt_eq_ok hnext h with ⟨-, rfl⟩ | ⟨-, rfl⟩
  · exact ⟨hnow.date, hhour, hminute, Nat.zero_le _, Nat.zero_le _⟩
  · exact ⟨Date.isReal_next hnow.date, hhour, hminute, Nat.zero_le _, Nat.zero_le _⟩

/-- **The next occurrence is still to come, and a day ahead at most.** -/
theorem distance_of_nextAt :
    0 < target.instant - now.instant ∧
      target.instant - now.instant ≤ Moment.microsecondsPerDay := by
  have hreal := isReal_of_nextAt hnow hnext hhour hminute h
  have hsince := Moment.sinceMidnight_lt hreal
  have hnumber := Date.number_next hnow.date
  have hpast := Moment.sinceMidnight_lt hnow
  rcases nextAt_eq_ok hnext h with ⟨hlater, rfl⟩ | ⟨hearlier, rfl⟩
  · simp only [Moment.instant]
    omega
  · have hsame : Moment.sinceMidnight ⟨now.date.next, hour, minute, 0, 0⟩ =
        Moment.sinceMidnight ⟨now.date, hour, minute, 0, 0⟩ := rfl
    rw [hsame] at hsince
    simp only [Moment.instant, hnumber, hsame, add_mul]
    omega

/-- **No other occurrence comes first.** -/
theorem isLeast_of_nextAt : IsLeast (occurrences now hour minute) target := by
  have hreal := isReal_of_nextAt hnow hnext hhour hminute h
  obtain ⟨hahead, -⟩ := distance_of_nextAt hnow hnext hhour hminute h
  obtain ⟨rfl, rfl, hsecond, hmicrosecond, -⟩ := fields_of_nextAt hnext h
  refine ⟨⟨hreal, rfl, rfl, hsecond, hmicrosecond,
    (Moment.instant_lt_instant_iff hnow hreal).1 (by omega)⟩, ?_⟩
  rintro t ⟨htreal, hthour, htminute, htsecond, htmicrosecond, htlater⟩
  by_contra hnot
  have hbefore := Moment.instant_lt_instant htreal hreal (not_le.1 hnot)
  have hafter := Moment.instant_lt_instant hnow htreal htlater
  -- an occurrence that came first would lie between two days
  have hsame : t.sinceMidnight = target.sinceMidnight := by
    simp only [Moment.sinceMidnight]
    omega
  have hclock := Moment.sinceMidnight_lt hreal
  have hpast := Moment.sinceMidnight_lt hnow
  have hnumber := Date.number_next hnow.date
  simp only [Moment.instant, hsame, Moment.microsecondsPerDay] at hbefore hafter hclock hpast
  rcases nextAt_eq_ok hnext h with ⟨hlater, heq⟩ | ⟨hearlier, heq⟩
  · have hdate : target.date.number = now.date.number := by rw [heq]
    omega
  · have hdate : target.date.number = now.date.next.number := by rw [heq]
    have hearlier' : target.sinceMidnight ≤ now.sinceMidnight := by
      rw [heq]
      exact hearlier
    omega

end Next

/-! ### What is accepted -/

/-- Of what is typed, exactly the times of day that exist are accepted. -/
theorem nextOccurrence_eq_ok_iff :
    nextOccurrence now typed = .ok target ↔
      ∃ hour minute, Shows typed.toList hour minute ∧ hour ≤ 23 ∧ minute ≤ 59 ∧
        nextAt now hour minute = .ok target := by
  rw [nextOccurrence]
  constructor
  · intro h
    split at h
    · rename_i hour minute hread
      split at h
      · rename_i hexists
        exact ⟨hour, minute, readClock?_eq_some_iff.1 hread, hexists.1, hexists.2, h⟩
      · cases h
    · cases h
  · rintro ⟨hour, minute, hshows, hhour, hminute, h⟩
    rw [readClock?_eq_some_iff.2 hshows]
    exact (if_pos ⟨hhour, hminute⟩).trans h

/-- **Every time of day that exists is accepted if it is typed in ASCII digits.** -/
theorem exists_nextOccurrence_of_ascii (hnext : now.date.next.year ≤ Date.maxYear)
    {hs ms : List Char} {hds mds : List ℕ} (hhs : hs.length = 1 ∨ hs.length = 2)
    (hms : ms.length = 2) (hhds : hs.mapM asciiDigit? = some hds)
    (hmds : ms.mapM asciiDigit? = some mds) (hhour : ofDigits hds ≤ 23)
    (hminute : ofDigits mds ≤ 59) :
    ∃ target, nextOccurrence now (String.ofList (hs ++ ':' :: ms)) = .ok target ∧
      target.hour = ofDigits hds ∧ target.minute = ofDigits mds := by
  obtain ⟨target, htarget⟩ := exists_nextAt_eq_ok hnext (ofDigits hds) (ofDigits mds)
  have hshows : Shows (hs ++ ':' :: (ms ++ [])) (ofDigits hds) (ofDigits mds) :=
    .intro hhs (natOfDigits?_of_mapM_asciiDigit? hhds) hms
      (natOfDigits?_of_mapM_asciiDigit? hmds) (.inl rfl)
  rw [List.append_nil] at hshows
  obtain ⟨hh, hm, -⟩ := fields_of_nextAt hnext htarget
  refine ⟨target, nextOccurrence_eq_ok_iff.2 ⟨_, _, ?_, hhour, hminute, htarget⟩, hh, hm⟩
  rwa [String.toList_ofList]

end Timer

/-! ### The delay of a reminder -/

namespace Scheduler

variable {now target : Moment}

/-- **The delay of a reminder in seconds**: the distance in microseconds, or a millisecond if that
is more, divided once; it is off by a hundredth of a nanosecond at most. -/
theorem exists_decode_delayBetween
    (h : target.instant - now.instant ≤ Moment.microsecondsPerDay) :
    ∃ m q, Double.decode (delayBetween now target) = .finite false m q ∧
      |(max (target.instant - now.instant) 1000 : ℤ) / 1000000 - m * (2 : ℚ) ^ q| ≤
        (2 : ℚ) ^ (-37 : ℤ) := by
  obtain ⟨n, hn⟩ : ∃ n : ℕ, max (target.instant - now.instant) 1000 = n :=
    Int.eq_ofNat_of_zero_le (by omega)
  have hbounds : 1000 ≤ n ∧ n ≤ Moment.microsecondsPerDay := by
    simp only [Moment.microsecondsPerDay] at h ⊢
    omega
  have hsame : max (target.instant - now.instant).toNat shortestDelay = n := by
    simp only [shortestDelay]
    omega
  have hsmall : (n / (1000000 : ℕ) : ℚ) < (2 : ℚ) ^ (17 : ℤ) := by
    have hday : n < 2 ^ 17 * 1000000 := by
      simp only [Moment.microsecondsPerDay] at hbounds
      omega
    rw [div_lt_iff₀ (by norm_num)]
    exact_mod_cast hday
  obtain ⟨m, q, hdecode, hdistance⟩ :=
    Double.exists_decode_nearest false (by omega) (by decide) (by decide) (by decide) hsmall
  refine ⟨m, q, ?_, ?_⟩
  · rw [delayBetween, hsame]
    exact hdecode
  · rw [hn, Int.cast_natCast]
    rwa [Nat.cast_ofNat] at hdistance

end Scheduler

/-! ### Reminders -/

namespace App

variable {app : App} {target : Moment} {typed : String}

/-- **A reminder starts one timer and changes nothing else.** -/
theorem perform_carryOut_remind (htarget : Timer.nextOccurrence app.now typed = .ok target)
    {message : String} (hmessage : allBlank message = false) :
    (carryOut (.remind typed message)).perform app =
      (.ok (.answered (Response.reply ("Reminder set for " ++ target.clock ++ " " ++
          (if target.date = app.now.date then "today" else "tomorrow") ++ ".") .help)),
        { app with
          scheduler := app.scheduler.start (Scheduler.delayBetween app.now target)
            (.reminder (strip message)) }) := by
  simp [carryOut, answer, remind, onScheduler, Scheduler.remind, Action.perform_bind, htarget,
    hmessage, Except.map]

/-- **Times of day and reminders.** What is accepted as a time of day shows an hour and a minute
that exist, and stands for the least of all later points in time at which a clock shows just that;
it is a day ahead at most. A reminder with some text starts one timer, and nothing else changes. The
delay of the timer is the double nearest to the distance in seconds, or to a millisecond if that is
more. The answer says `today` or `tomorrow` as the point in time lies on the current day or on the
day after. All times of day that exist are accepted in one or two ASCII digits, a colon and two
ASCII digits. -/
theorem remind_next_occurrence (hnow : app.now.IsReal)
    (hnext : app.now.date.next.year ≤ Date.maxYear) :
    (∀ typed target, Timer.nextOccurrence app.now typed = .ok target →
      ∃ hour minute, Timer.Shows typed.toList hour minute ∧ hour ≤ 23 ∧ minute ≤ 59 ∧
        IsLeast (Timer.occurrences app.now hour minute) target ∧
        0 < target.instant - app.now.instant ∧
        target.instant - app.now.instant ≤ Moment.microsecondsPerDay ∧
        ∀ message, allBlank message = false → ∃ delay day,
          (carryOut (.remind typed message)).perform app =
            (.ok (.answered (Response.reply
                ("Reminder set for " ++ target.clock ++ " " ++ day ++ ".") .help)),
              { app with
                scheduler := app.scheduler.start delay (.reminder (strip message)) }) ∧
          delay = Double.nearest false
            (max (target.instant - app.now.instant) 1000).toNat 1000000 ∧
          (∃ m q, Double.decode delay = .finite false m q ∧
            |(max (target.instant - app.now.instant) 1000 : ℤ) / 1000000 - m * (2 : ℚ) ^ q| ≤
              (2 : ℚ) ^ (-37 : ℤ)) ∧
          (day = "today" ↔ target.date = app.now.date) ∧
          (day = "tomorrow" ↔ target.date = app.now.date.next)) ∧
    ∀ hs ms hds mds, hs.length = 1 ∨ hs.length = 2 → ms.length = 2 →
      hs.mapM asciiDigit? = some hds → ms.mapM asciiDigit? = some mds →
      ofDigits hds ≤ 23 → ofDigits mds ≤ 59 →
      ∃ target, Timer.nextOccurrence app.now (String.ofList (hs ++ ':' :: ms)) = .ok target ∧
        target.hour = ofDigits hds ∧ target.minute = ofDigits mds := by
  refine ⟨fun typed target htarget ↦ ?_, fun hs ms hds mds ↦
    Timer.exists_nextOccurrence_of_ascii hnext⟩
  obtain ⟨hour, minute, hshows, hhour, hminute, hat⟩ :=
    Timer.nextOccurrence_eq_ok_iff.1 htarget
  obtain ⟨hahead, hday⟩ := Timer.distance_of_nextAt hnow hnext hhour hminute hat
  refine ⟨hour, minute, hshows, hhour, hminute,
    Timer.isLeast_of_nextAt hnow hnext hhour hminute hat, hahead, hday, fun message hmessage ↦
    ⟨_, _, perform_carryOut_remind htarget hmessage, ?_,
      Scheduler.exists_decode_delayBetween hday, ?_⟩⟩
  · have hsame : max (target.instant - app.now.instant).toNat Scheduler.shortestDelay =
        (max (target.instant - app.now.instant) 1000).toNat := by
      simp only [Scheduler.shortestDelay]
      omega
    rw [Scheduler.delayBetween, hsame]
  · have hdiffer := Date.next_ne hnow.date
    obtain ⟨-, -, -, -, hdate | hdate⟩ := Timer.fields_of_nextAt hnext hat
    · simp [hdate, hdiffer.symm]
    · simp [hdate, hdiffer]

/-- An organizer in the last microsecond of a year. -/
def newYearsEve : App where
  desk := {
    store := { entries := [], backing := .memory }
    home := ⟨.slash, ["home"]⟩
    savedFiles := ⟨.slash, ["home", "saved"]⟩ }
  scheduler := { defaults := ⟨25, 5⟩ }
  now := ⟨⟨2023, 12, 31⟩, 23, 59, 59, 999999⟩

/-- Midnight is next on the first day of the new year, though it is a microsecond ahead. -/
theorem remind_next_occurrence_new_year :
    IsLeast (Timer.occurrences newYearsEve.now 0 0) ⟨⟨2024, 1, 1⟩, 0, 0, 0, 0⟩ ∧
      (carryOut (.remind "0:00" " Happy new year ")).perform newYearsEve =
        (.ok (.answered (Response.reply "Reminder set for 00:00 tomorrow." .help)),
          { newYearsEve with
            scheduler := newYearsEve.scheduler.start (Double.nearest false 1000 1000000)
              (.reminder "Happy new year") }) := by
  have hnow : newYearsEve.now.IsReal :=
    ⟨by decide, by decide, by decide, by decide, by decide⟩
  have htarget : Timer.nextOccurrence newYearsEve.now "0:00" = .ok ⟨⟨2024, 1, 1⟩, 0, 0, 0, 0⟩ := by
    decide +kernel
  obtain ⟨hour, minute, -, -, -, hleast, -, -, hremind⟩ :=
    (remind_next_occurrence hnow (by decide)).1 "0:00" _ htarget
  obtain ⟨-, rfl, rfl, -⟩ := hleast.1
  obtain ⟨delay, day, hperform, rfl, -, -, hday⟩ := hremind " Happy new year " (by decide +kernel)
  obtain rfl : day = "tomorrow" := hday.2 (by decide)
  have hstrip : strip " Happy new year " = "Happy new year" := by decide +kernel
  have hclock : Moment.clock ⟨⟨2024, 1, 1⟩, 0, 0, 0, 0⟩ = "00:00" := by decide +kernel
  have hdelay : (max (Moment.instant ⟨⟨2024, 1, 1⟩, 0, 0, 0, 0⟩ - newYearsEve.now.instant)
      1000).toNat = 1000 := by decide +kernel
  rw [hstrip, hclock, hdelay] at hperform
  exact ⟨hleast, hperform⟩

end App

end Organizer
