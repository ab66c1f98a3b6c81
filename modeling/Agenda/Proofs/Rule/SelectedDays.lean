import Agenda.Proofs.Rule.Occurrence

/-!
# The days that a rule selects

A weekly rule selects days by the weekday, a monthly rule by the month and by the place in the month.  Which
day is the last of its month, and which one comes before it, is said here by the days that follow: the last
day is followed by a day of another month, or by none where the calendar ends.  The search for the next
occurrence goes from day to day, so its answer is the first selected day after the start and after today.

* `Date.EndsMonth`, `Date.PrecedesMonthEnd` — the last two days of a month, by the days that follow them.
* `Date.endsMonth_iff`, `Date.precedesMonthEnd_iff` — the same by the number of the day.
* `Date.daysInMonth_of_firstOfNextMonth?` — the length of a month by the day on which the next one begins.
* `Date.weekday_next?` — the weekdays follow each other.
* `Rule.nextAfter?_least_selected` — the next occurrence of a rule that selects days, and when there is none.
-/

namespace Agenda

namespace Date

variable {d e : Date}

/-- The following day, if the calendar has one, belongs to another month. -/
def EndsMonth (d : Date) : Prop := ∀ e, d.next? = some e → e.month ≠ d.month

/-- The following day belongs to the same month, and the one after it does not. -/
def PrecedesMonthEnd (d : Date) : Prop := ∃ e, d.next? = some e ∧ e.month = d.month ∧ e.EndsMonth

theorem month_firstOfNextMonth?_ne (h : d.firstOfNextMonth? = some e) : e.month ≠ d.month := by
  unfold firstOfNextMonth? at h
  split at h
  · rw [Option.some.injEq] at h
    subst h
    show d.month + 1 ≠ d.month
    omega
  · split at h
    · rw [Option.some.injEq] at h
      subst h
      show 1 ≠ d.month
      omega
    · exact absurd h (by simp)

/-- Before the end of the month only the number of the day changes. -/
theorem next?_of_lt (h : d.day < d.daysInMonth) :
    ∃ e, d.next? = some e ∧ e.year = d.year ∧ e.month = d.month ∧ e.day = d.day + 1 := by
  have hlt : d.day < monthLength d.year d.month := h
  rw [next?, dif_pos hlt]
  exact ⟨_, rfl, rfl, rfl, rfl⟩

/-- **A day ends its month exactly if its number is the length of the month**; the last December of the
calendar is like any other. -/
theorem endsMonth_iff : d.EndsMonth ↔ d.day = d.daysInMonth := by
  have hle : d.day ≤ d.daysInMonth := d.day_le
  constructor
  · intro h
    by_contra hne
    obtain ⟨e, hnext, -, hmonth, -⟩ := next?_of_lt (lt_of_le_of_ne hle hne)
    exact h e hnext hmonth
  · intro h e hnext
    have hlast : ¬ d.day < monthLength d.year d.month := not_lt.2 h.ge
    rw [next?, dif_neg hlast] at hnext
    exact month_firstOfNextMonth?_ne hnext

theorem precedesMonthEnd_iff : d.PrecedesMonthEnd ↔ d.day + 1 = d.daysInMonth := by
  have hle : d.day ≤ d.daysInMonth := d.day_le
  constructor
  · rintro ⟨e, hnext, hmonth, hend⟩
    have hlt : d.day < d.daysInMonth := by
      by_contra hge
      exact endsMonth_iff.2 (le_antisymm hle (not_lt.1 hge)) e hnext hmonth
    obtain ⟨f, hf, hyear, hmonth', hday⟩ := next?_of_lt hlt
    obtain rfl : f = e := Option.some.inj (hf.symm.trans hnext)
    have hlength := endsMonth_iff.1 hend
    rw [daysInMonth, hyear, hmonth', hday] at hlength
    exact hlength
  · intro h
    obtain ⟨e, hnext, hyear, hmonth, hday⟩ := next?_of_lt (d := d) (by omega)
    refine ⟨e, hnext, hmonth, endsMonth_iff.2 ?_⟩
    rw [daysInMonth, hyear, hmonth, hday]
    exact h

/-- **A month is as long as the number of the day before the next month begins**, and the last month of the
calendar has 31 days. -/
theorem daysInMonth_of_firstOfNextMonth? (d : Date) :
    (∀ first, d.firstOfNextMonth? = some first → ∃ before : Date, before.next? = some first ∧
        d.daysInMonth = before.day) ∧
      (d.firstOfNextMonth? = none → d.daysInMonth = 31) := by
  constructor
  · intro first hfirst
    have hpos : 1 ≤ d.daysInMonth := d.day_pos.trans d.day_le
    refine ⟨{ d with day := d.daysInMonth, day_pos := hpos, day_le := le_rfl }, ?_, rfl⟩
    have hend : ¬ d.daysInMonth < monthLength d.year d.month := lt_irrefl _
    rw [next?, dif_neg hend]
    exact hfirst
  · intro hnone
    obtain ⟨hyear, hmonth⟩ := firstOfNextMonth?_eq_none hnone
    rw [daysInMonth, hyear, hmonth]
    rfl

/-- The weekdays follow each other, and Monday follows Sunday. -/
theorem weekday_next? (h : d.next? = some e) : e.weekday = d.weekday % 7 + 1 := by
  have hnumber := dayNumber_next? h
  unfold weekday
  omega

end Date

namespace Rule

/-- Whether a rule selects a day, whatever the start is.  A rule that counts from its start selects none. -/
def Selects (rule : Rule) (d : Date) : Prop :=
  match rule with
  | .weekly weekdays => d.weekday ∈ weekdays
  | .monthly days months => d.month ∈ months ∧
      (d.day ∈ days.days ∨ days.last = true ∧ d.EndsMonth ∨ days.secondToLast = true ∧ d.PrecedesMonthEnd)
  | .daily _ => False
  | .yearly => False

variable {rule : Rule} {start d : Date}

/-- A rule that selects days occurs on the days that it selects. -/
theorem occursOn_iff_selects (h : rule.countsFromStart = false) : rule.OccursOn start d ↔ rule.Selects d := by
  cases rule with
  | weekly weekdays => exact Iff.rfl
  | monthly days months =>
    simp only [OccursOn, Selects, Date.endsMonth_iff, Date.precedesMonthEnd_iff]
  | daily interval => exact absurd h (by simp [countsFromStart])
  | yearly => exact absurd h (by simp [countsFromStart])

/-- **The next occurrence of a rule that selects days is the first day that it selects after the start and
after today**, at whatever time of the day; the calendar is left exactly if no such day is left in it.  The
weekdays go round from day to day, and 10 March 2025 is a Monday. -/
theorem nextAfter?_least_selected (h : rule.countsFromStart = false) (now : Moment) (start : Date) :
    (∀ d, withinCalendar (rule.nextAfter? now start) = .ok d ↔
      (start < d ∧ now.date < d ∧ rule.Selects d) ∧
        ∀ e, start < e → now.date < e → rule.Selects e → d ≤ e) ∧
    (withinCalendar (rule.nextAfter? now start) = .error .outOfCalendar ↔
      ∀ e, start < e → now.date < e → ¬ rule.Selects e) ∧
    (∀ d e : Date, d.next? = some e → e.weekday = d.weekday % 7 + 1) ∧
      (Date.of? 2025 3 10).map Date.weekday = some 1 := by
  have hearliest : IsEarliest (rule.nextAfter? now start)
      fun d => start < d ∧ now.date < d ∧ rule.Selects d := by
    refine (nextAfter?_isEarliest_of_not_countsFromStart h now start).congr fun d => ?_
    rw [occursOn_iff_selects h]
    exact ⟨fun ⟨hs, ha, hb⟩ => ⟨ha, hb, hs⟩, fun ⟨ha, hb, hs⟩ => ⟨hs, ha, hb⟩⟩
  refine ⟨fun d => ?_, ?_, fun d e hnext => Date.weekday_next? hnext, by decide⟩
  · rw [withinCalendar_eq_ok_iff, hearliest.eq_some_iff]
    exact and_congr_right fun _ => ⟨fun hle e ha hb hs => hle e ⟨ha, hb, hs⟩,
      fun hle e he => hle e he.1 he.2.1 he.2.2⟩
  · rw [withinCalendar_eq_error_iff, and_iff_left rfl, hearliest.eq_none_iff]
    exact ⟨fun hnone e ha hb hs => hnone e ⟨ha, hb, hs⟩, fun hnone e he => hnone e he.1 he.2.1 he.2.2⟩

/-- On the last days of the calendar: 30 December is the last but one, 31 December the last of its month,
and after it no day is left. -/
theorem nextAfter?_least_selected_at_the_end :
    let rule : Rule := .monthly ⟨.ofList [29, 40], true, true⟩ (.ofList [12, 13])
    let before : Date := ⟨262142, 12, 29, by decide, by decide, by decide, by decide, by decide, by decide⟩
    let second : Date := ⟨262142, 12, 30, by decide, by decide, by decide, by decide, by decide, by decide⟩
    withinCalendar (rule.nextAfter? (.midnight before) before) = .ok second ∧
      withinCalendar (rule.nextAfter? (.midnight before) second) = .ok .last ∧
      withinCalendar (rule.nextAfter? (.midnight .last) before) = .error .outOfCalendar := by
  intro rule before second
  have hrule : rule.countsFromStart = false := rfl
  have hsecond : before.next? = some second := by decide
  have hlast : second.next? = some .last := by decide
  refine ⟨?_, ?_, ?_⟩
  · refine ((nextAfter?_least_selected hrule _ _).1 second).2 ⟨⟨by decide, by decide, by decide, ?_⟩, ?_⟩
    · exact .inr (.inr ⟨rfl, Date.precedesMonthEnd_iff.2 rfl⟩)
    · exact fun e hlt _ _ => Date.le_of_next?_of_lt hsecond hlt
  · refine ((nextAfter?_least_selected hrule _ _).1 .last).2 ⟨⟨by decide, by decide, by decide, ?_⟩, ?_⟩
    · exact .inr (.inl ⟨rfl, Date.endsMonth_iff.2 rfl⟩)
    · exact fun e hlt _ _ => Date.le_of_next?_of_lt hlast hlt
  · refine (nextAfter?_least_selected hrule _ _).2.1.2 ?_
    exact fun e _ hlater => absurd (Date.le_last e) (not_le.2 hlater)

end Rule

end Agenda
