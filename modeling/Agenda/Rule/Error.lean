import Agenda.NumberSet
import Agenda.Text.Number

/-!
# What is wrong with a rule

The causes for which a repeat rule is refused, and their wording.  A rule that is read for its dates is
refused with a `RuleError`; a rule that is only checked, with a `Rejection`.

* `RuleError.message`, `Rejection.message` — the wording.
* `Rejection.ofRuleError` — how the one is told in terms of the other.
-/

namespace Agenda

open Text

def commaSeparated (numbers : List (List Char)) : List Char := [','].intercalate numbers

inductive RuleField
  | interval
  | weekday
  | monthDay
  | month
deriving DecidableEq, Repr

def RuleField.name : RuleField → String
  | .interval => "interval"
  | .weekday => "weekday"
  | .monthDay => "day of month"
  | .month => "month"

/-- What is wrong with the parameters of a rule. -/
inductive ParameterFault
  /-- A daily rule names more than one interval. -/
  | severalIntervals
  /-- A yearly rule has parameters. -/
  | unexpectedParameters
  /-- A text stands where a number is due. -/
  | notANumber (field : RuleField) (text : String)
  /-- The interval of a daily rule is too small or too large. -/
  | intervalOutOfRange (n : Int)
  /-- A day or a month does not exist. -/
  | outOfRange (field : RuleField) (n : Int)
  /-- None of the days ever occurs in the months. -/
  | unreachable (days : NumberSet)
deriving DecidableEq, Repr

def ParameterFault.message : ParameterFault → String
  | .severalIntervals => "rule 'd' takes exactly one interval"
  | .unexpectedParameters => "rule 'y' takes no parameters"
  | .notANumber field text => field.name ++ " '" ++ text ++ "' is not a number"
  | .intervalOutOfRange n =>
      "interval must be between 1 and 400, got " ++ String.ofList (signedDecimal n)
  | .outOfRange field n => field.name ++ " " ++ String.ofList (signedDecimal n) ++ " is out of range"
  | .unreachable days =>
      "day " ++ String.ofList (commaSeparated (days.elements.map decimal)) ++
        " never occurs in the selected months"

/-- Why a text is no rule. -/
inductive RuleError
  /-- The text holds no word. -/
  | empty
  /-- The first word is no kind of rule. -/
  | unsupportedKind (kind : String)
  /-- Nothing follows the kind. -/
  | missingParameter (kind : String)
  /-- The parameters do not fit the kind. -/
  | invalidParameter (fault : ParameterFault)
deriving DecidableEq, Repr

def RuleError.message : RuleError → String
  | .empty => "Repeat rule must not be empty"
  | .unsupportedKind kind => "Unsupported repeat rule kind: '" ++ kind ++ "'"
  | .missingParameter kind => "Missing parameter for repeat rule '" ++ kind ++ "'"
  | .invalidParameter fault => "Invalid repeat rule parameter: " ++ fault.message

inductive Rejection
  /-- The first word is no kind of rule. -/
  | unknownKind (kind : String)
  /-- The kind is known, and the rest is wrong for the reason given. -/
  | invalid (reason : String)
deriving DecidableEq, Repr

namespace Rejection

/-- A rule that cannot be read does not pass the check. -/
def ofRuleError : RuleError → Rejection
  | .unsupportedKind kind => .unknownKind kind
  | .invalidParameter fault => .invalid fault.message
  | .missingParameter kind => .invalid ("missing parameter for '" ++ kind ++ "'")
  | .empty => .invalid RuleError.empty.message

def message : Rejection → String
  | .unknownKind kind => "Unknown repeat rule kind: '" ++ kind ++ "'"
  | .invalid reason => "Invalid repeat rule: " ++ reason

end Rejection

end Agenda
