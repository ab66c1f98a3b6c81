import Agenda.Calendar.Moment
import Agenda.Calendar.Written
import Agenda.Rule.Parser

/-!
# The next occurrence

A rule that counts from the start date (`d`, `y`) goes on step by step until it is no longer in the past
and stays where it is if it is not; a rule that selects days (`w`, `m`) moves to the first selected day
after the start whose midnight is still to come.  Either search ends at the last day of the calendar.

* `Date.firstInSeries?` — repeats a step until a day is reached.
* `Date.firstAfter?` — the first later day with a property.
* `Rule.nextAfter?` — the next occurrence of a rule; none if the calendar ends before it.
* `nextDate` — the same for written dates and rules.
* `Rule.afterCompletion?` — the next occurrence of a task that was just done.
-/

namespace Agenda

namespace Date

theorem lastDayNumber_sub_lt {d e : Date} (h : d < e) :
    (last.dayNumber - e.dayNumber).toNat < (last.dayNumber - d.dayNumber).toNat := by
  have h₁ := dayNumber_lt_of_lt h
  have h₂ := dayNumber_le_last e
  omega

/-- Repeats a step from `d` until `bound` is reached or passed.  A step that leads out of the calendar,
or does not lead to a later day, ends the search. -/
def firstInSeries? (d : Date) (step : Date → Option Date) (bound : Date) : Option Date :=
  if bound ≤ d then some d
  else
    match step d with
    | none => none
    | some e => if d < e then e.firstInSeries? step bound else none
termination_by (last.dayNumber - d.dayNumber).toNat
decreasing_by exact lastDayNumber_sub_lt ‹_›

theorem lt_of_next? {d e : Date} (h : d.next? = some e) : d < e := by
  rw [lt_iff_dayNumber_lt, dayNumber_next? h]
  omega

def firstAfter? (d : Date) (p : Date → Bool) : Option Date :=
  match _next : d.next? with
  | none => none
  | some e => if p e then some e else e.firstAfter? p
termination_by (last.dayNumber - d.dayNumber).toNat
decreasing_by exact lastDayNumber_sub_lt (lt_of_next? ‹_›)

end Date

/-- Whether a date falls on one of these weekdays. -/
def NumberSet.selectsWeekdayOf (weekdays : NumberSet) (d : Date) : Bool := decide (d.weekday ∈ weekdays)

/-- Whether a date lies in one of these months and on one of these days of the month. -/
def MonthDays.selectsDate (days : MonthDays) (months : NumberSet) (d : Date) : Bool :=
  decide (d.month ∈ months) && days.selects d.day d.daysInMonth

namespace Rule

/-- The next occurrence of a rule at a moment, for a task that starts on `start`. -/
def nextAfter? (rule : Rule) (now : Moment) (start : Date) : Option Date :=
  match rule with
  | .daily interval => start.firstInSeries? (·.addDays? interval) now.date
  | .yearly => start.firstInSeries? (·.addYears? 1) now.date
  | .weekly weekdays =>
      start.firstAfter? fun d => decide (now < .midnight d) && weekdays.selectsWeekdayOf d
  | .monthly days months =>
      start.firstAfter? fun d => decide (now < .midnight d) && days.selectsDate months d

/-- The moment from which a task that is done on `today` and was due on `current` goes on: a rule that
counts from its start must not stop at either day, the other rules never do. -/
def completionReference? (rule : Rule) (today current : Date) : Option Moment :=
  if rule.countsFromStart then ((today.latest current).next?).map .midnight
  else some (.midnight (today.latest current))

/-- The next occurrence of a task that is done on `today` and was due on `current`. -/
def afterCompletion? (rule : Rule) (today current : Date) : Option Date :=
  (rule.completionReference? today current).bind fun reference => rule.nextAfter? reference current

end Rule

/-- Why there is no next date. -/
inductive ScheduleError
  /-- The rule cannot be read. -/
  | rule (e : RuleError)
  /-- The start date is no date. -/
  | invalidStart (text : String)
  /-- The calendar ends before the next date. -/
  | outOfCalendar
deriving DecidableEq, Repr

def ScheduleError.message : ScheduleError → String
  | .rule e => e.message
  | .invalidStart text => "Invalid start date '" ++ text ++ "', expected YYYYMMDD"
  | .outOfCalendar => "Date arithmetic left the supported calendar range"

def readStart (s : String) : Except ScheduleError Date :=
  match Date.ofCompact? s with
  | some d => .ok d
  | none => .error (.invalidStart s)

/-- A date that the calendar may not have. -/
def withinCalendar (d : Option Date) : Except ScheduleError Date :=
  match d with
  | some d => .ok d
  | none => .error .outOfCalendar

/-- The next date of a task that starts on a written date and repeats by a written rule.  The empty rule
is refused first, then the start date, then the rule. -/
def nextDate (now : Moment) (start rule : String) : Except ScheduleError String := do
  if rule = "" then throw (.rule .empty)
  let start ← readStart start
  let rule ← (Rule.parse rule).mapError .rule
  let next ← withinCalendar (rule.nextAfter? now start)
  pure next.compact

end Agenda
