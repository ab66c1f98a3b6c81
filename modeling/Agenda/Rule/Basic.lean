import Agenda.NumberSet

/-!
# Repeat rules

A rule says on which days a task comes back: every so many days, on days of the week, on days of the
month in some months, or every year on the same day.  A rule value may hold any numbers; which of them
the written form can name is said by `Rule.WellFormed`.

* `MonthDays.selects` — whether a day of the month is selected in a month of a given length.
* `Rule.WellFormed` — the rules that a text can name: their numbers are in range and they do select a
  day of some year.
-/

namespace Agenda

def greatestInterval : Nat := 400

def allMonths : NumberSet := .ofList [1, 2, 3, 4, 5, 6, 7, 8, 9, 10, 11, 12]

def longestMonth (month : Nat) : Nat :=
  match month with
  | 2 => 29
  | 4 | 6 | 9 | 11 => 30
  | _ => 31

structure MonthDays where
  /-- The days that are named by their number. -/
  days : NumberSet
  /-- The last day of the month. -/
  last : Bool
  /-- The day before the last day of the month. -/
  secondToLast : Bool
deriving DecidableEq, Repr

namespace MonthDays

/-- Whether a day is selected in a month of this length. -/
def selects (s : MonthDays) (day length : Nat) : Bool :=
  decide (day ∈ s.days) || (s.last && day == length) || (s.secondToLast && day + 1 == length)

/-- Whether some day is selected in the longest of these months. -/
def reaches (s : MonthDays) (months : NumberSet) : Bool :=
  s.last || s.secondToLast ||
    s.days.elements.any (fun day => months.elements.any (fun month => day ≤ longestMonth month))

end MonthDays

inductive Rule
  /-- Every `interval` days. -/
  | daily (interval : Nat)
  /-- On these days of the week, 1 for Monday to 7 for Sunday. -/
  | weekly (weekdays : NumberSet)
  /-- On these days of these months. -/
  | monthly (days : MonthDays) (months : NumberSet)
  /-- Every year on the same day. -/
  | yearly
deriving DecidableEq, Repr

namespace Rule

/-- Whether the rule counts on from the start date, so that the day asked about may be the answer.  The
other rules look for the next day they select. -/
def countsFromStart : Rule → Bool
  | .daily _ => true
  | .yearly => true
  | .weekly _ => false
  | .monthly _ _ => false

/-- The rules that a text can name. -/
def WellFormed : Rule → Prop
  | .daily interval => 1 ≤ interval ∧ interval ≤ greatestInterval
  | .weekly weekdays => weekdays.elements ≠ [] ∧ ∀ n ∈ weekdays, 1 ≤ n ∧ n ≤ 7
  | .monthly days months =>
      (∀ n ∈ days.days, 1 ≤ n ∧ n ≤ 31) ∧ (months.elements ≠ [] ∧ ∀ n ∈ months, 1 ≤ n ∧ n ≤ 12) ∧
        (days.last = true ∨ days.secondToLast = true ∨
          ∃ day ∈ days.days, ∃ month ∈ months, day ≤ longestMonth month)
  | .yearly => True

end Rule

example : (MonthDays.mk (.ofList [10]) true true).selects 29 30 = true := by decide

example : (MonthDays.mk (.ofList [31]) false false).reaches (.ofList [2]) = false := by decide

end Agenda
