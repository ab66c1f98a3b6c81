import Agenda.Rule.Basic
import Agenda.Rule.Error
import Agenda.Text.Blank

/-!
# Reading rules

A rule is written as words with blanks between them.  The first word is the kind: `d` with an interval,
`w` with a list of weekdays, `m` with a list of days of the month and perhaps a list of months, or `y`
alone.  A list has commas between its numbers and no blanks.  The days `-1` and `-2` are the last day of
the month and the day before it.  Words after the lists of `w` and `m` are passed over.

* `Rule.ofWords` — the rule named by the words of a text.
* `Rule.parse` — the rule named by a text.
* `Rule.check` — whether a text is a rule or empty.
-/

namespace Agenda

open Text

/-- The number written in a word. -/
def RuleField.read (field : RuleField) (word : List Char) : Except ParameterFault Int :=
  match signed64? word with
  | some n => .ok n
  | none => .error (.notANumber field (String.ofList word))

/-- The number written in an item of a list, if it is in range. -/
def RuleField.readItem (field : RuleField) (inRange : Int → Bool) (item : List Char) :
    Except ParameterFault Int := do
  let n ← field.read item
  if inRange n then pure n else throw (.outOfRange field n)

/-- The numbers of a list, each of them in range. -/
def RuleField.readList (field : RuleField) (inRange : Int → Bool) (word : List Char) :
    Except ParameterFault (List Int) :=
  (word.splitOn ',').mapM (field.readItem inRange)

/-- The selection made of numbers of days, with -1 for the last day and -2 for the day before it. -/
def MonthDays.ofSelectors (selectors : List Int) : MonthDays where
  days := .ofList ((selectors.filter (0 < ·)).map Int.toNat)
  last := selectors.contains (-1)
  secondToLast := selectors.contains (-2)

/-- Refuses a selection of days that no day of these months can satisfy. -/
def MonthDays.checkReach (days : MonthDays) (months : NumberSet) : Except ParameterFault Unit :=
  if days.reaches months then pure () else throw (.unreachable days.days)

namespace Rule

def dailyOf : List (List Char) → Except RuleError Rule
  | [] => throw (.missingParameter "d")
  | [word] => do
      let n ← (RuleField.interval.read word).mapError .invalidParameter
      if 1 ≤ n ∧ n ≤ greatestInterval then pure (.daily n.toNat)
      else throw (.invalidParameter (.intervalOutOfRange n))
  | _ => throw (.invalidParameter .severalIntervals)

def weeklyOf : List (List Char) → Except RuleError Rule
  | [] => throw (.missingParameter "w")
  | list :: _ => do
      let numbers ← (RuleField.weekday.readList (fun n => 1 ≤ n && n ≤ 7) list).mapError .invalidParameter
      pure (.weekly (.ofList (numbers.map Int.toNat)))

/-- The months in a list, or all of them where there is no list. -/
def monthsOf : List (List Char) → Except ParameterFault NumberSet
  | [] => pure allMonths
  | list :: _ => do
      let numbers ← RuleField.month.readList (fun n => 1 ≤ n && n ≤ 12) list
      pure (.ofList (numbers.map Int.toNat))

def monthlyOf : List (List Char) → Except RuleError Rule
  | [] => throw (.missingParameter "m")
  | list :: rest => Except.mapError .invalidParameter do
      let selectors ← RuleField.monthDay.readList
        (fun n => n == -1 || n == -2 || (1 ≤ n && n ≤ 31)) list
      let months ← monthsOf rest
      let days := MonthDays.ofSelectors selectors
      days.checkReach months
      pure (.monthly days months)

def yearlyOf : List (List Char) → Except RuleError Rule
  | [] => pure .yearly
  | _ => throw (.invalidParameter .unexpectedParameters)

def ofWords : List (List Char) → Except RuleError Rule
  | [] => throw .empty
  | kind :: parameters =>
      if kind = ['d'] then dailyOf parameters
      else if kind = ['w'] then weeklyOf parameters
      else if kind = ['m'] then monthlyOf parameters
      else if kind = ['y'] then yearlyOf parameters
      else throw (.unsupportedKind (String.ofList kind))

def parse (s : String) : Except RuleError Rule := ofWords (words s.toList)

/-- Whether a text is a rule.  The empty text stands for no repetition and passes. -/
def check (s : String) : Except Rejection Unit :=
  if s = "" then pure ()
  else match parse s with
    | .ok _ => pure ()
    | .error e => throw (.ofRuleError e)

example : (parse " d  007 ").toOption = some (.daily 7) := by decide

example : (parse "m -1,31 2,2 more").toOption =
    some (.monthly ⟨.ofList [31], true, false⟩ (.ofList [2])) := by decide

example : (parse "m 31 2").toOption = none := by decide

end Rule

end Agenda
