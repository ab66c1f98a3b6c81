import Agenda.Proofs.Calendar.Codec
import Agenda.Proofs.Rule.Occurrence
import Mathlib.Tactic.IntervalCases

/-!
# How long a rule may pause

A well-formed rule always occurs again soon: within a week, a year or so, or for the 29 February within the
eight years around a century that is no leap year.  So the next occurrence exists unless the calendar ends.

* `Date.exists_weekday` — each weekday comes within seven days.
* `Date.exists_dayOfMonth` — a day that a month has in every year comes within two years.
* `Date.exists_leapDay` — 29 February comes within 2921 days.
* `Rule.exists_nextAfter?` — the next occurrence of a well-formed rule and how far away it is at most.
-/

namespace Agenda

/-- The most days for which a monthly rule may pause: from 29 February of a year to that of the eighth year
after it, where the fourth is a century without one. -/
def longestPause : Int := 2921

namespace Date

/-- Each weekday comes within seven days. -/
theorem exists_weekday {w : Nat} (hw : 1 ≤ w ∧ w ≤ 7) (after : Date)
    (h : after.dayNumber + 7 ≤ last.dayNumber) :
    ∃ d, after < d ∧ d.dayNumber ≤ after.dayNumber + 7 ∧ d.weekday = w := by
  obtain ⟨d, hd⟩ := exists_dayNumber_eq (d := after)
    (n := after.dayNumber + 1 + ((w : Int) - 1 - after.dayNumber) % 7) (by omega) (by omega)
  refine ⟨d, lt_iff_dayNumber_lt.2 (by omega), by omega, ?_⟩
  rw [weekday]
  omega

/-- A year of the calendar, from a bound on the days before it. -/
theorem year_le_lastYear {year : Int} (h : daysBeforeYear year < last.dayNumber) : year ≤ lastYear := by
  have hlast := dayNumber_le_daysBeforeYear_succ last
  have hlt := daysBeforeYear_lt_iff.1 (lt_of_lt_of_le h hlast)
  have : last.year = lastYear := rfl
  omega

/-- A day that a month has in every year comes within two years. -/
theorem exists_dayOfMonth {month : Nat} (hmonth : 1 ≤ month ∧ month ≤ 12) (day : Int → Nat)
    (hday : ∀ year, 1 ≤ day year ∧ day year ≤ monthLength year month) (after : Date)
    (h : after.dayNumber + 731 ≤ last.dayNumber) :
    ∃ d, after < d ∧ d.dayNumber ≤ after.dayNumber + 731 ∧ d.month = month ∧ d.day = day d.year := by
  have hstart := daysBeforeYear_lt_dayNumber after
  have hend := dayNumber_le_daysBeforeYear_succ after
  have hlength : daysBeforeYear (after.year + 1 + 1) ≤ daysBeforeYear after.year + 731 := by
    unfold daysBeforeYear
    omega
  have hfirst := after.firstYear_le
  let this : Date := ⟨after.year, month, day after.year, hfirst, after.year_le, hmonth.1, hmonth.2,
    (hday _).1, (hday _).2⟩
  by_cases hthis : after < this
  · have hle : this.dayNumber ≤ daysBeforeYear (after.year + 1) := dayNumber_le_daysBeforeYear_succ this
    have hnext := daysBeforeYear_lt_iff (a := after.year + 1) (b := after.year + 1 + 1)
    exact ⟨this, hthis, by omega, rfl, rfl⟩
  · have hyear : after.year + 1 ≤ lastYear :=
      year_le_lastYear (by
        have hlt := daysBeforeYear_lt_iff (a := after.year + 1) (b := after.year + 1 + 1)
        omega)
    let next : Date := ⟨after.year + 1, month, day (after.year + 1), by omega, hyear, hmonth.1, hmonth.2,
      (hday _).1, (hday _).2⟩
    have hgt : daysBeforeYear (after.year + 1) < next.dayNumber := daysBeforeYear_lt_dayNumber next
    have hle : next.dayNumber ≤ daysBeforeYear (after.year + 1 + 1) := dayNumber_le_daysBeforeYear_succ next
    exact ⟨next, lt_iff_dayNumber_lt.2 (by omega), by omega, rfl, rfl⟩

/-- Some year within the next eight has a 29 February after a given day. -/
theorem exists_leapYear (after : Date) :
    ∃ year, after.year ≤ year ∧ isLeapYear year = true ∧ after.dayNumber < daysBeforeYear year + 60 ∧
      daysBeforeYear year + 60 ≤ after.dayNumber + longestPause := by
  have hstart := daysBeforeYear_lt_dayNumber after
  have hend := dayNumber_le_daysBeforeYear_succ after
  simp only [isLeapYear, Bool.and_eq_true, beq_iff_eq, Bool.or_eq_true, bne_iff_ne]
  unfold daysBeforeYear at *
  rw [longestPause]
  generalize after.year = y at *
  generalize after.dayNumber = n at *
  -- this year, or else the next multiple of four, or else the one after it
  by_cases hthis : (y % 4 = 0 ∧ (y % 100 ≠ 0 ∨ y % 400 = 0)) ∧
      n < 365 * (y - 1) + (y - 1) / 4 - (y - 1) / 100 + (y - 1) / 400 + 60
  · exact ⟨y, by omega, hthis.1, hthis.2, by omega⟩
  · by_cases hnext : (y + 4 - y % 4) % 100 ≠ 0 ∨ (y + 4 - y % 4) % 400 = 0
    · exact ⟨y + 4 - y % 4, by omega, ⟨by omega, hnext⟩, by omega, by omega⟩
    · exact ⟨y + 8 - y % 4, by omega, ⟨by omega, by omega⟩, by omega, by omega⟩

/-- **29 February comes within eight years.** -/
theorem exists_leapDay (after : Date) (h : after.dayNumber + longestPause ≤ last.dayNumber) :
    ∃ d, after < d ∧ d.dayNumber ≤ after.dayNumber + longestPause ∧ d.month = 2 ∧ d.day = 29 := by
  obtain ⟨year, hge, hleap, hafter, hbound⟩ := exists_leapYear after
  have hfirst := after.firstYear_le
  have hlength : 29 ≤ monthLength year 2 := by simp [monthLength, hleap]
  let d : Date := ⟨year, 2, 29, by omega, year_le_lastYear (by omega), by omega, by omega, by omega, hlength⟩
  have hnumber : d.dayNumber = daysBeforeYear year + 60 := by
    show daysBeforeYear year + (daysBeforeMonth year 2 : Nat) + (29 : Nat) = _
    rw [show daysBeforeMonth year 2 = 31 from rfl]
    omega
  exact ⟨d, lt_iff_dayNumber_lt.2 (by omega), by omega, rfl, rfl⟩

/-- The calendar does not end soon after a year of four digits. -/
theorem HasFourDigitYear.dayNumber_add_lt {d : Date} (h : d.HasFourDigitYear) :
    d.dayNumber + longestPause < last.dayNumber := by
  have hend := dayNumber_le_daysBeforeYear_succ d
  have hlt := (daysBeforeYear_lt_iff (a := d.year + 1) (b := 10001)).2 (by have := h.2; omega)
  have hlast : daysBeforeYear 262142 < last.dayNumber := daysBeforeYear_lt_dayNumber last
  rw [longestPause]
  unfold daysBeforeYear at *
  omega

end Date

theorem monthLength_eq_longestMonth {month : Nat} (h : month ≠ 2) (year : Int) :
    monthLength year month = longestMonth month := by
  unfold longestMonth monthLength
  split <;> simp_all

/-- Only 29 February is not in every year where the longest month has it. -/
theorem day_le_monthLength {day month : Nat} (h : day ≤ longestMonth month)
    (hleap : ¬ (month = 2 ∧ day = 29)) (year : Int) : day ≤ monthLength year month := by
  by_cases hm : month = 2
  · subst hm
    have hlong : day ≤ 29 := h
    have hpos := monthLength_pos year 2
    omega
  · rwa [monthLength_eq_longestMonth hm]

namespace Rule

/-- A well-formed monthly rule does not pause longer than the longest pause. -/
theorem exists_monthDay {days : MonthDays} {months : NumberSet}
    (h : (Rule.monthly days months).WellFormed) (after : Date)
    (hroom : after.dayNumber + longestPause ≤ Date.last.dayNumber) :
    ∃ d, after < d ∧ d.dayNumber ≤ after.dayNumber + longestPause ∧
      (Rule.monthly days months).OccursOn after d := by
  obtain ⟨hdays, ⟨hne, hmonths⟩, hreach⟩ := h
  have hroom' : after.dayNumber + 731 ≤ Date.last.dayNumber := by
    rw [longestPause] at hroom
    omega
  have hpause : after.dayNumber + 731 ≤ after.dayNumber + longestPause := by
    rw [longestPause]
    omega
  rcases hreach with hlast | hsecond | ⟨day, hday, month, hmonth, hle⟩
  · obtain ⟨month, hmonth⟩ := List.exists_mem_of_ne_nil _ hne
    obtain ⟨d, hafter, hbound, hm, hd⟩ := Date.exists_dayOfMonth (hmonths month hmonth)
      (fun year => monthLength year month)
      (fun year => ⟨by have := monthLength_pos year month; omega, le_rfl⟩) after hroom'
    refine ⟨d, hafter, hbound.trans hpause, hm ▸ hmonth, .inr (.inl ⟨hlast, ?_⟩)⟩
    rw [hd, Date.daysInMonth, hm]
  · obtain ⟨month, hmonth⟩ := List.exists_mem_of_ne_nil _ hne
    obtain ⟨d, hafter, hbound, hm, hd⟩ := Date.exists_dayOfMonth (hmonths month hmonth)
      (fun year => monthLength year month - 1)
      (fun year => by have := monthLength_pos year month; omega) after hroom'
    refine ⟨d, hafter, hbound.trans hpause, hm ▸ hmonth, .inr (.inr ⟨hsecond, ?_⟩)⟩
    have := monthLength_pos d.year month
    rw [hd, Date.daysInMonth, hm]
    omega
  · by_cases hleap : month = 2 ∧ day = 29
    · obtain ⟨d, hafter, hbound, hm, hd⟩ := Date.exists_leapDay after hroom
      obtain ⟨rfl, rfl⟩ := hleap
      exact ⟨d, hafter, hbound, hm ▸ hmonth, .inl (hd ▸ hday)⟩
    · obtain ⟨d, hafter, hbound, hm, hd⟩ := Date.exists_dayOfMonth (hmonths month hmonth)
        (fun _ => day)
        (fun year => ⟨(hdays day hday).1, day_le_monthLength hle hleap year⟩) after hroom'
      exact ⟨d, hafter, hbound.trans hpause, hm ▸ hmonth, .inl (hd ▸ hday)⟩

/-- How many days after today, or after the later of today and the start, a rule occurs at the latest. -/
def pause : Rule → Int
  | .daily interval => interval - 1
  | .yearly => 365
  | .weekly _ => 7
  | .monthly _ _ => longestPause

/-- A well-formed rule that counts from its start occurs on its start, or within its pause from today. -/
theorem exists_nextAfter?_of_countsFromStart {rule : Rule} (hcounts : rule.countsFromStart = true)
    (h : rule.WellFormed) (now : Moment) (start : Date)
    (hroom : now.date.dayNumber + longestPause ≤ Date.last.dayNumber) :
    ∃ d, rule.nextAfter? now start = some d ∧
      (d = start ∨ d.dayNumber ≤ now.date.dayNumber + rule.pause) := by
  rw [longestPause] at hroom
  cases rule with
  | daily interval =>
    have hpos : 1 ≤ interval := h.1
    have hle : interval ≤ 400 := h.2
    obtain ⟨d, hd, -, hbound⟩ := Date.exists_firstInSeries? (·.addDays? interval) now.date interval
      (fun e he => by
        have hlt := Date.lt_iff_dayNumber_lt.1 he
        obtain ⟨f, hf⟩ := Date.exists_dayNumber_eq (d := e) (n := e.dayNumber + interval)
          (by omega) (by omega)
        exact ⟨f, Date.addDays?_eq_some_iff.2 hf, Date.lt_iff_dayNumber_lt.2 (by omega), by omega⟩) start
    refine ⟨d, hd, hbound.imp_right fun hb => ?_⟩
    simp only [pause]
    omega
  | yearly =>
    obtain ⟨d, hd, -, hbound⟩ := Date.exists_firstInSeries? (·.addYears? 1) now.date 366
      (fun e he => by
        have hlt := Date.lt_iff_dayNumber_lt.1 he
        have hstart := Date.daysBeforeYear_lt_dayNumber e
        have hend := Date.dayNumber_le_daysBeforeYear_succ Date.last
        have hyear : e.year + 1 ≤ lastYear := Date.year_le_lastYear (by
          unfold Date.daysBeforeYear at *
          omega)
        have hfirst := e.firstYear_le
        cases hf : e.addYears? 1 with
        | none => exact absurd ⟨by omega, hyear⟩ (Date.addYears?_eq_none_iff.1 hf)
        | some f => exact ⟨f, rfl, Date.lt_of_addYears?_one hf, Date.dayNumber_addYears?_one_le hf⟩) start
    refine ⟨d, hd, hbound.imp_right fun hb => ?_⟩
    simp only [pause]
    omega
  | weekly weekdays => exact absurd hcounts (by simp [countsFromStart])
  | monthly days months => exact absurd hcounts (by simp [countsFromStart])

/-- A well-formed rule that selects days occurs within its pause from the later of today and the start. -/
theorem exists_nextAfter?_of_not_countsFromStart {rule : Rule} (hcounts : rule.countsFromStart = false)
    (h : rule.WellFormed) (now : Moment) (start : Date)
    (hroom : (max start now.date).dayNumber + longestPause ≤ Date.last.dayNumber) :
    ∃ d, rule.nextAfter? now start = some d ∧
      d.dayNumber ≤ (max start now.date).dayNumber + rule.pause := by
  have hexists : ∃ e, max start now.date < e ∧
      e.dayNumber ≤ (max start now.date).dayNumber + rule.pause ∧ rule.OccursOn start e := by
    cases rule with
    | weekly weekdays =>
      obtain ⟨w, hw⟩ := List.exists_mem_of_ne_nil _ h.1
      obtain ⟨e, hafter, hbound, hday⟩ := Date.exists_weekday (h.2 w hw) (max start now.date) (by
        rw [longestPause] at hroom
        omega)
      have hoccurs : e.weekday ∈ weekdays := hday ▸ hw
      exact ⟨e, hafter, hbound, hoccurs⟩
    | monthly days months => exact exists_monthDay h _ hroom
    | daily interval => exact absurd hcounts (by simp [countsFromStart])
    | yearly => exact absurd hcounts (by simp [countsFromStart])
  obtain ⟨e, hafter, hbound, hoccurs⟩ := hexists
  obtain ⟨hstart, hnow⟩ := max_lt_iff.1 hafter
  obtain ⟨d, hd, -, hle⟩ :=
    (nextAfter?_isEarliest_of_not_countsFromStart hcounts now start).exists_le ⟨hoccurs, hstart, hnow⟩
  exact ⟨d, hd, (Date.le_iff_dayNumber_le.1 hle).trans hbound⟩

/-- **A well-formed rule has a next occurrence**, unless the calendar ends within the longest pause. -/
theorem exists_nextAfter? {rule : Rule} (h : rule.WellFormed) (now : Moment) (start : Date)
    (hroom : (max start now.date).dayNumber + longestPause ≤ Date.last.dayNumber) :
    ∃ d, rule.nextAfter? now start = some d := by
  cases hcounts : rule.countsFromStart with
  | true =>
    have hnow := Date.le_iff_dayNumber_le.1 (le_max_right start now.date)
    obtain ⟨d, hd, -⟩ := exists_nextAfter?_of_countsFromStart hcounts h now start (by omega)
    exact ⟨d, hd⟩
  | false =>
    obtain ⟨d, hd, -⟩ := exists_nextAfter?_of_not_countsFromStart hcounts h now start hroom
    exact ⟨d, hd⟩

end Rule

end Agenda
