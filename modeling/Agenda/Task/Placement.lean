import Agenda.Rule.Schedule

/-!
# Placing a task in the calendar

Before a task is stored its date is brought up to date: no date stands for today, a repeating task that
is due today or earlier moves to its next occurrence, and a task in the past that is done once moves to
today.  A date in the future stays.

* `requestedDate` — the date that is asked for.
* `placeDate` — the date that is stored.
-/

namespace Agenda

/-- Why a task has no place in the calendar. -/
inductive PlacementError
  /-- The date asked for is no date. -/
  | invalidDate (text : String)
  /-- The rule gives no next date. -/
  | invalidRecurrence (e : ScheduleError)
deriving DecidableEq, Repr

def PlacementError.message : PlacementError → String
  | .invalidDate text => "Invalid date '" ++ text ++ "', expected YYYYMMDD"
  | .invalidRecurrence e => "Invalid repeat rule: " ++ e.message

/-- The date that is asked for; an empty text asks for today. -/
def requestedDate (date : String) (now : Moment) : String :=
  if date = "" then now.date.compact else date

def readRequested (date : String) : Except PlacementError Date :=
  match Date.ofCompact? date with
  | some d => .ok d
  | none => .error (.invalidDate date)

/-- The date under which a task with this date and this rule is stored. -/
def placeDate (date recurrence : String) (now : Moment) : Except PlacementError String := do
  let requested := requestedDate date now
  let day ← readRequested requested
  if recurrence = "" then
    pure (if day < now.date then now.date.compact else requested)
  else
    let next ← (nextDate now requested recurrence).mapError .invalidRecurrence
    pure (if day ≤ now.date then next else requested)

end Agenda
