import Agenda.Rule.Basic
import Agenda.Rule.Error

/-!
# Writing rules

A rule has a canonical text, in which the numbers of a list stand in increasing order with the days `-1`
and `-2` behind them and the list of all months is left out, and a description for people.

* `Rule.text` — the canonical text.
* `Rule.describe` — the description.
-/

namespace Agenda

open Text

def namesInARow (names : List (List Char)) : List Char := [',', ' '].intercalate names

def weekdayName : Nat → List Char
  | 1 => "Mon".toList
  | 2 => "Tue".toList
  | 3 => "Wed".toList
  | 4 => "Thu".toList
  | 5 => "Fri".toList
  | 6 => "Sat".toList
  | _ => "Sun".toList

def monthName : Nat → List Char
  | 1 => "Jan".toList
  | 2 => "Feb".toList
  | 3 => "Mar".toList
  | 4 => "Apr".toList
  | 5 => "May".toList
  | 6 => "Jun".toList
  | 7 => "Jul".toList
  | 8 => "Aug".toList
  | 9 => "Sep".toList
  | 10 => "Oct".toList
  | 11 => "Nov".toList
  | _ => "Dec".toList

namespace MonthDays

/-- The selected days as numbers, with -1 for the last day and -2 for the day before it. -/
def selectors (s : MonthDays) : List Int :=
  s.days.elements.map Int.ofNat ++ (if s.last then [-1] else []) ++ (if s.secondToLast then [-2] else [])

/-- The selected days as words for people. -/
def dayNames (s : MonthDays) : List (List Char) :=
  s.days.elements.map decimal ++ (if s.last then ["last".toList] else []) ++
    (if s.secondToLast then ["second-to-last".toList] else [])

end MonthDays

namespace Rule

def kind : Rule → Char
  | .daily _ => 'd'
  | .weekly _ => 'w'
  | .monthly _ _ => 'm'
  | .yearly => 'y'

def textChars : Rule → List Char
  | .daily interval => 'd' :: ' ' :: decimal interval
  | .weekly weekdays => 'w' :: ' ' :: commaSeparated (weekdays.elements.map decimal)
  | .monthly days months =>
      'm' :: ' ' :: commaSeparated (days.selectors.map signedDecimal) ++
        if months.size = 12 then [] else ' ' :: commaSeparated (months.elements.map decimal)
  | .yearly => ['y']

/-- The canonical text of a rule. -/
def text (r : Rule) : String := String.ofList r.textChars

def describeChars : Rule → List Char
  | .daily interval =>
      if interval = 1 then "every day".toList else "every ".toList ++ decimal interval ++ " days".toList
  | .weekly weekdays => "weekly on ".toList ++ namesInARow (weekdays.elements.map weekdayName)
  | .monthly days months =>
      "monthly on day ".toList ++ namesInARow days.dayNames ++
        if months.size = 12 then []
        else " in ".toList ++ namesInARow (months.elements.map monthName)
  | .yearly => "every year".toList

/-- The description of a rule for people. -/
def describe (r : Rule) : String := String.ofList r.describeChars

example : (Rule.monthly ⟨.ofList [15, 1], true, true⟩ allMonths).text = "m 1,15,-1,-2" := by decide

example : (Rule.monthly ⟨.ofList [1], true, false⟩ (.ofList [3])).describe =
    "monthly on day 1, last in Mar" := by decide

end Rule

end Agenda
