import Agenda.Proofs.Rule.Search
import Mathlib.Tactic.Ring

/-!
# The days on which a rule occurs

What a rule selects is said here without any search: the dates at multiples of the interval, the dates that
years lead to, the days of the week, the days of the month.  The next occurrence of a rule, and the one after
a completion, are the earliest of these dates beyond a bound.

* `Rule.OccursOn` — the dates of a rule for a task that starts on a date.
* `Rule.nextAfter?_isEarliest_of_countsFromStart`, `Rule.nextAfter?_isEarliest_of_not_countsFromStart` — the
  next occurrence: not before today for the rules that count, after today for the others.
* `Rule.afterCompletion?_isEarliest` — the occurrence after a completion: for all rules the earliest one after
  both days.
-/

namespace Agenda

/-- Whether a day of the month is selected: by its number, as the last day, or as the day before it. -/
theorem MonthDays.selectsDate_iff {days : MonthDays} {months : NumberSet} {d : Date} :
    days.selectsDate months d = true ↔ d.month ∈ months ∧
      (d.day ∈ days.days ∨ days.last = true ∧ d.day = d.daysInMonth ∨
        days.secondToLast = true ∧ d.day + 1 = d.daysInMonth) := by
  simp only [selectsDate, selects, Bool.and_eq_true, Bool.or_eq_true, decide_eq_true_eq, beq_iff_eq, or_assoc]

theorem NumberSet.selectsWeekdayOf_iff {weekdays : NumberSet} {d : Date} :
    weekdays.selectsWeekdayOf d = true ↔ d.weekday ∈ weekdays := decide_eq_true_iff

namespace Rule

/-- The dates of a rule for a task that starts on a date. -/
def OccursOn (rule : Rule) (start d : Date) : Prop :=
  match rule with
  | .daily interval => ∃ k : Nat, start.addDays? (k * interval) = some d
  | .yearly => Date.Series (·.addYears? 1) start d
  | .weekly weekdays => d.weekday ∈ weekdays
  | .monthly days months => d.month ∈ months ∧
      (d.day ∈ days.days ∨ days.last = true ∧ d.day = d.daysInMonth ∨
        days.secondToLast = true ∧ d.day + 1 = d.daysInMonth)

/-- The rules that do not stand still: only an interval of no days does. -/
def MovesOn : Rule → Prop
  | .daily interval => 0 < interval
  | _ => True

theorem WellFormed.movesOn {rule : Rule} (h : rule.WellFormed) : rule.MovesOn := by
  cases rule with
  | daily interval => exact h.1
  | weekly weekdays => trivial
  | monthly days months => trivial
  | yearly => trivial

/-- The dates that steps of so many days lead to are those at multiples of the interval. -/
theorem series_addDays?_iff {interval : Nat} {d e : Date} :
    Date.Series (·.addDays? interval) d e ↔ ∃ k : Nat, d.addDays? (k * interval) = some e := by
  simp only [Date.addDays?_eq_some_iff]
  constructor
  · intro h
    induction h with
    | refl => exact ⟨0, by simp⟩
    | tail _ hstep ih =>
      obtain ⟨k, hk⟩ := ih
      refine ⟨k + 1, ?_⟩
      rw [Date.dayNumber_addDays? hstep, hk]
      push_cast
      ring
  · intro h'
    obtain ⟨k, hk⟩ := h'
    induction k generalizing e with
    | zero => exact Date.eq_of_dayNumber_eq (by simpa using hk.symm) ▸ .refl
    | succ k ih =>
      have hnum : e.dayNumber = d.dayNumber + (k * interval : Nat) + interval := by
        rw [hk]
        push_cast
        ring
      have hlast := Date.dayNumber_le_last e
      obtain ⟨f, hf⟩ := Date.exists_dayNumber_eq (d := d) (n := d.dayNumber + (k * interval : Nat))
        (by omega) (by omega)
      exact .tail (ih hf) (Date.addDays?_eq_some_iff.2 (by omega))

/-- The next occurrence of a rule that counts from its start is the earliest that is not in the past. -/
theorem nextAfter?_isEarliest_of_countsFromStart {rule : Rule} (hcounts : rule.countsFromStart = true)
    (hmoves : rule.MovesOn) (now : Moment) (start : Date) :
    IsEarliest (rule.nextAfter? now start) fun d => rule.OccursOn start d ∧ now.date ≤ d := by
  cases rule with
  | daily interval =>
    have hearliest := Date.firstInSeries?_isEarliest (fun _ _ => Date.lt_of_addDays? hmoves) start now.date
    refine hearliest.congr fun d => ?_
    rw [series_addDays?_iff]
    rfl
  | yearly => exact Date.firstInSeries?_isEarliest (fun _ _ => Date.lt_of_addYears?_one) start now.date
  | weekly weekdays => exact absurd hcounts (by simp [countsFromStart])
  | monthly days months => exact absurd hcounts (by simp [countsFromStart])

/-- The next occurrence of a rule that selects days is the earliest that is after the start and after
today. -/
theorem nextAfter?_isEarliest_of_not_countsFromStart {rule : Rule} (hcounts : rule.countsFromStart = false)
    (now : Moment) (start : Date) :
    IsEarliest (rule.nextAfter? now start) fun d => rule.OccursOn start d ∧ start < d ∧ now.date < d := by
  cases rule with
  | weekly weekdays =>
    refine (Date.firstAfter?_isEarliest start _).congr fun d => ?_
    rw [Bool.and_eq_true, decide_eq_true_iff, Moment.lt_midnight_iff, NumberSet.selectsWeekdayOf_iff]
    exact ⟨fun ⟨hs, hn, ho⟩ => ⟨ho, hs, hn⟩, fun ⟨ho, hs, hn⟩ => ⟨hs, hn, ho⟩⟩
  | monthly days months =>
    refine (Date.firstAfter?_isEarliest start _).congr fun d => ?_
    rw [Bool.and_eq_true, decide_eq_true_iff, Moment.lt_midnight_iff, MonthDays.selectsDate_iff]
    exact ⟨fun ⟨hs, hn, ho⟩ => ⟨ho, hs, hn⟩, fun ⟨ho, hs, hn⟩ => ⟨hs, hn, ho⟩⟩
  | daily interval => exact absurd hcounts (by simp [countsFromStart])
  | yearly => exact absurd hcounts (by simp [countsFromStart])

/-- The next occurrence is never in the past. -/
theorem le_of_nextAfter? {rule : Rule} (hmoves : rule.MovesOn) {now : Moment} {start d : Date}
    (h : rule.nextAfter? now start = some d) : now.date ≤ d := by
  cases hcounts : rule.countsFromStart with
  | true => exact ((nextAfter?_isEarliest_of_countsFromStart hcounts hmoves now start).eq_some_iff.1 h).1.2
  | false =>
    exact ((nextAfter?_isEarliest_of_not_countsFromStart hcounts now start).eq_some_iff.1 h).1.2.2.le

/-- **After a completion a rule goes on with its earliest date after both days**, whichever of them is the
later one. -/
theorem afterCompletion?_isEarliest {rule : Rule} (hmoves : rule.MovesOn) (today current : Date) :
    IsEarliest (rule.afterCompletion? today current) fun d =>
      rule.OccursOn current d ∧ max today current < d := by
  rw [afterCompletion?, completionReference?]
  rw [Date.latest_eq_max]
  cases hcounts : rule.countsFromStart with
  | true =>
    rw [if_pos rfl]
    cases hnext : (max today current).next? with
    | none =>
      -- no day is left after the last one
      rw [Date.next?_eq_none_iff.1 hnext]
      exact fun d hd => absurd (Date.le_last d) (not_le.2 hd.2)
    | some reference =>
      refine (nextAfter?_isEarliest_of_countsFromStart hcounts hmoves _ current).congr fun d => ?_
      exact and_congr_right fun _ => Date.next?_le_iff hnext
  | false =>
    rw [if_neg (by simp)]
    refine (nextAfter?_isEarliest_of_not_countsFromStart hcounts _ current).congr fun d => ?_
    refine and_congr_right fun _ => ⟨fun h => h.2, fun h => ⟨?_, h⟩⟩
    exact lt_of_le_of_lt (le_max_right _ _) h

/-- A rule does not go on after a completion exactly if none of its dates is left. -/
theorem afterCompletion?_eq_none_iff {rule : Rule} (hmoves : rule.MovesOn) {today current : Date} :
    rule.afterCompletion? today current = none ↔ ∀ d, rule.OccursOn current d → d ≤ max today current := by
  rw [(afterCompletion?_isEarliest hmoves today current).eq_none_iff]
  simp only [not_and, not_lt]

end Rule

theorem withinCalendar_eq_ok_iff {d : Option Date} {e : Date} : withinCalendar d = .ok e ↔ d = some e := by
  cases d <;> simp [withinCalendar]

theorem withinCalendar_eq_error_iff {d : Option Date} {e : ScheduleError} :
    withinCalendar d = .error e ↔ d = none ∧ e = .outOfCalendar := by
  cases d with
  | none => simp [withinCalendar, eq_comm]
  | some d => simp [withinCalendar]

end Agenda
