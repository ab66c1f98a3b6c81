import Agenda.Proofs.Rule.Rounds

/-!
# Where a yearly rule stops

A yearly rule goes on year by year from the date that it has reached.  A day that every year has is kept, so the
search stops in the first year in which this day is not in the past.  A task that starts on 29 February moves to
1 March with its first step and stays there, in leap years too.

* `Date.ReachedIn` — whether a day of a year is not in the past, in the calendar or beyond it.
* `Date.firstInSeries?_addYears?` — the search from a day that every year has.
* `Date.exists_addYears?_leapDay` — the first step from 29 February.
* `Rule.yearly_stops_in_year` — the answer of a yearly rule by the year in which it stops.
-/

namespace Agenda

namespace Date

def IsLeapDay (d : Date) : Prop := d.month = 2 ∧ d.day = 29

instance (d : Date) : Decidable d.IsLeapDay := inferInstanceAs (Decidable (_ ∧ _))

/-- Whether a day of a year is on or after a date.  The year may lie outside of the calendar. -/
def ReachedIn (bound : Date) (month day : Nat) (year : Int) : Prop :=
  bound.year < year ∨ bound.year = year ∧ (bound.month < month ∨ bound.month = month ∧ bound.day ≤ day)

variable {d bound : Date} {month day : Nat} {year : Int}

theorem reachedIn_iff_le : bound.ReachedIn d.month d.day d.year ↔ bound ≤ d := le_iff_fields.symm

/-! ### A day that every year has -/

theorem day_le_monthLength_of_not_isLeapDay (h : ¬ d.IsLeapDay) (year : Int) :
    d.day ≤ monthLength year d.month := by
  rcases day_le_monthLength_or d year with hle | ⟨hmonth, hday, -⟩
  · exact hle
  · exact absurd ⟨hmonth, hday⟩ h

theorem of?_eq_none_iff_of_not_isLeapDay (h : ¬ d.IsLeapDay) (hfirst : firstYear ≤ year) :
    of? year d.month d.day = none ↔ lastYear < year := by
  have hlength := day_le_monthLength_of_not_isLeapDay h year
  have hmonth := d.month_pos
  have hmonth' := d.month_le
  have hday := d.day_pos
  rw [of?_eq_none_iff]
  omega

/-- A step of one year keeps a day that every year has. -/
theorem fields_of_addYears?_one {e : Date} (h : ¬ d.IsLeapDay) (hstep : d.addYears? 1 = some e) :
    e.year = d.year + 1 ∧ e.month = d.month ∧ e.day = d.day := by
  obtain ⟨hyear, hkept | ⟨⟨hmonth, hday, -⟩, -⟩⟩ := addYears?_eq_some_iff.1 hstep
  · exact ⟨hyear, hkept⟩
  · exact absurd ⟨hmonth, hday⟩ h

/-- **The search from a day that every year has** stops on this day of the least year, from the present one on, in
which it is not in the past. -/
theorem firstInSeries?_addYears? (h : ¬ d.IsLeapDay) (bound : Date) :
    ∃ year, IsLeast {y : Int | d.year ≤ y ∧ bound.ReachedIn d.month d.day y} year ∧
      d.firstInSeries? (·.addYears? 1) bound = of? year d.month d.day := by
  induction d using firstInSeries?.induct (·.addYears? 1) bound with
  | case1 d hle =>
    rw [firstInSeries?, if_pos hle]
    exact ⟨d.year, ⟨⟨le_rfl, reachedIn_iff_le.2 hle⟩, fun y hy => hy.1⟩,
      (of?_eq_some_iff.2 ⟨rfl, rfl, rfl⟩).symm⟩
  | case2 d hlt hnone =>
    -- the day is still in the past in the last year, so that the year after it is the least
    rw [firstInSeries?, if_neg hlt, hnone]
    have hrange := addYears?_eq_none_iff.1 hnone
    have hfirst := d.firstYear_le
    have hbound := bound.year_le
    refine ⟨d.year + 1, ⟨⟨by omega, .inl (by omega)⟩, ?_⟩, ?_⟩
    · rintro y ⟨hy, hreached⟩
      exact lt_of_le_of_ne hy fun heq => hlt (reachedIn_iff_le.1 (heq ▸ hreached))
    · exact ((of?_eq_none_iff_of_not_isLeapDay h (by omega)).2 (by omega)).symm
  | case3 d hlt e hsome hde ih =>
    rw [firstInSeries?, if_neg hlt, hsome]
    simp only [hde, if_true]
    obtain ⟨hyear, hmonth, hday⟩ := fields_of_addYears?_one h hsome
    obtain ⟨year, ⟨⟨hle, hreached⟩, hleast⟩, hanswer⟩ :=
      ih (by rw [IsLeapDay, hmonth, hday]; exact h)
    rw [hmonth, hday] at hreached hleast hanswer
    refine ⟨year, ⟨⟨by omega, hreached⟩, ?_⟩, hanswer⟩
    rintro y ⟨hy, hreached'⟩
    have hne : d.year ≠ y := fun heq => hlt (reachedIn_iff_le.1 (heq ▸ hreached'))
    exact hleast ⟨by omega, hreached'⟩
  | case4 d hlt e hsome hde => exact absurd (lt_of_addYears?_one hsome) hde

/-- **The first step from 29 February** leads to 1 March of the next year. -/
theorem exists_addYears?_leapDay (h : d.IsLeapDay) :
    ∃ e, d.addYears? 1 = some e ∧ e.year = d.year + 1 ∧ e.month = 3 ∧ e.day = 1 := by
  have hleap := isLeapYear_of_leapDay h.1 h.2
  have hcommon := isLeapYear_succ hleap
  have hfirst := d.firstYear_le
  have hlast := d.year_le
  -- the last year of the calendar is no leap year
  have hne : d.year ≠ lastYear := by
    rintro heq
    rw [heq] at hleap
    exact absurd hleap (by decide)
  cases hstep : d.addYears? 1 with
  | none =>
    have hrange := addYears?_eq_none_iff.1 hstep
    omega
  | some e =>
    obtain ⟨hyear, ⟨hmonth, hday⟩ | ⟨-, hmonth, hday⟩⟩ := addYears?_eq_some_iff.1 hstep
    · have := isLeapYear_of_leapDay (hmonth.trans h.1) (hday.trans h.2)
      rw [hyear, hcommon] at this
      exact absurd this (by simp)
    · exact ⟨e, rfl, hyear, hmonth, hday⟩

end Date

namespace Rule

variable {now : Moment} {today start : Date} {month day : Nat}

/-- An answer is a day of the least later year in which this day is not in the past, and the calendar is left
exactly if it ends before that year. -/
def StopsOn (answer : Except ScheduleError Date) (today start : Date) (month day : Nat) : Prop :=
  ∃ year : Int, IsLeast {y : Int | start.year < y ∧ today.ReachedIn month day y} year ∧
    (year ≤ lastYear → ∃ d, answer = .ok d ∧ d.year = year ∧ d.month = month ∧ d.day = day) ∧
    (answer = .error .outOfCalendar ↔ lastYear < year)

/-- The search from a day that every year has, counted from a date before it that is in the past itself. -/
theorem stopsOn_of_firstInSeries? {d : Date} (h : ¬ d.IsLeapDay)
    (hlater : ∀ y : Int, d.year ≤ y ∧ today.ReachedIn d.month d.day y ↔
      start.year < y ∧ today.ReachedIn d.month d.day y) :
    StopsOn (withinCalendar (d.firstInSeries? (·.addYears? 1) today)) today start d.month d.day := by
  obtain ⟨year, hleast, hanswer⟩ := Date.firstInSeries?_addYears? h today
  have hfirst := d.firstYear_le.trans hleast.1.1
  have hnone := Date.of?_eq_none_iff_of_not_isLeapDay h hfirst
  simp only [hlater] at hleast
  rw [hanswer]
  refine ⟨year, hleast, fun hyear => ?_, ?_⟩
  · cases hdate : Date.of? year d.month d.day with
    | none => exact absurd (hnone.1 hdate) (not_lt.2 hyear)
    | some e => exact ⟨e, rfl, Date.of?_eq_some_iff.1 hdate⟩
  · rw [withinCalendar_eq_error_iff, and_iff_left rfl, hnone]

/-- **A yearly rule stops on the day of its start in the first later year in which this day is not in the past**,
and on 1 March if it starts on 29 February.  It stops at once if the start is not in the past. -/
theorem yearly_stops_in_year (now : Moment) (start : Date) :
    Date.EndsWith (·.addYears? 1) now.date start (yearly.nextAfter? now start) ∧
    (now.date ≤ start → withinCalendar (yearly.nextAfter? now start) = .ok start) ∧
    (start < now.date → ¬ start.IsLeapDay →
      StopsOn (withinCalendar (yearly.nextAfter? now start)) now.date start start.month start.day) ∧
    (start < now.date → start.IsLeapDay →
      StopsOn (withinCalendar (yearly.nextAfter? now start)) now.date start 3 1) := by
  have hnext : yearly.nextAfter? now start = start.firstInSeries? (·.addYears? 1) now.date := rfl
  rw [hnext]
  refine ⟨Date.endsWith_firstInSeries? (fun _ _ => Date.lt_of_addYears?_one) now.date start, ?_, ?_, ?_⟩
  · intro hle
    rw [Date.firstInSeries?, if_pos hle]
    rfl
  · intro hlt h
    refine stopsOn_of_firstInSeries? h fun y => and_congr_left fun hreached => ?_
    -- the day itself is in the past
    have hne : start.year ≠ y := fun heq => not_le.2 hlt (Date.reachedIn_iff_le.1 (heq ▸ hreached))
    omega
  · intro hlt h
    obtain ⟨e, hstep, hyear, hmonth, hday⟩ := Date.exists_addYears?_leapDay h
    have hforward := Date.lt_of_addYears?_one hstep
    have hmarch : ¬ e.IsLeapDay := by
      rw [Date.IsLeapDay, hmonth]
      omega
    have hrest : StopsOn (withinCalendar (e.firstInSeries? (·.addYears? 1) now.date)) now.date start
        e.month e.day := by
      refine stopsOn_of_firstInSeries? hmarch fun y => and_congr_left fun _ => ?_
      omega
    rw [Date.firstInSeries?, if_neg (not_le.2 hlt), hstep]
    simp only [hforward, if_true]
    rw [hmonth, hday] at hrest
    exact hrest

/-- From 29 February 2024 the rule comes to 1 March 2028, although that year has a 29 February again; and a day of
the last year is followed by none. -/
theorem yearly_stops_in_year_after_leapDay :
    let start : Date := ⟨2024, 2, 29, by decide, by decide, by decide, by decide, by decide, by decide⟩
    let today : Date := ⟨2028, 2, 29, by decide, by decide, by decide, by decide, by decide, by decide⟩
    let next : Date := ⟨2028, 3, 1, by decide, by decide, by decide, by decide, by decide, by decide⟩
    let late : Date := ⟨262142, 7, 15, by decide, by decide, by decide, by decide, by decide, by decide⟩
    withinCalendar (yearly.nextAfter? (.midnight start) start) = .ok start ∧
      withinCalendar (yearly.nextAfter? (.midnight today) start) = .ok next ∧
      withinCalendar (yearly.nextAfter? (.midnight .last) late) = .error .outOfCalendar := by
  intro start today next late
  obtain ⟨-, hstart, -⟩ := yearly_stops_in_year (.midnight start) start
  obtain ⟨-, -, -, hmarch⟩ := yearly_stops_in_year (.midnight today) start
  obtain ⟨-, -, hlate, -⟩ := yearly_stops_in_year (.midnight .last) late
  refine ⟨hstart le_rfl, ?_, ?_⟩
  · obtain ⟨year, hleast, hok, -⟩ := hmarch (by decide) (by decide)
    have hyear : IsLeast {y : Int | start.year < y ∧ today.ReachedIn 3 1 y} 2028 := by
      refine ⟨⟨by decide, .inr ⟨rfl, .inl (by decide)⟩⟩, ?_⟩
      rintro y ⟨-, hreached⟩
      exact hreached.elim le_of_lt fun h => h.1.le
    obtain rfl := hleast.unique hyear
    obtain ⟨d, hd, hfields⟩ := hok (by decide)
    obtain rfl : d = next := Date.ext hfields.1 hfields.2.1 hfields.2.2
    exact hd
  · obtain ⟨year, hleast, -, hnone⟩ := hlate (by decide) (by decide)
    exact hnone.2 hleast.1.1

end Rule

end Agenda
