import Agenda.Calendar.Written
import Agenda.CommandLine.Grid
import Agenda.Rule.Printer
import Agenda.Task.Basic
import Agenda.Task.Error
import Agenda.Task.Json

/-!
# Reports

What a command prints.  Some words are marked by colors and weights that a terminal understands.

* `Report.text` — what is printed on success.
* `errorText` — what is printed on failure.
-/

namespace Agenda.CommandLine

open Text

inductive Report
  | added (t : Task)
  | listing (ts : List Task)
  /-- A task, as it looks today. -/
  | details (t : Task) (today : Date)
  | json (t : Task)
  | changed (t : Task)
  | deletionCancelled
  | deleted (t : Task)
  | completed (c : Completion)
  | nextDate (date : String)
  | emptyRule
  | validRule (r : Rule)
deriving DecidableEq, Repr

/-! ### Marks -/

def marked (begin finish word : String) : String := "\x1b[" ++ begin ++ "m" ++ word ++ "\x1b[" ++ finish ++ "m"

def bold (s : String) : String := marked "1" "0" s

def red (s : String) : String := marked "31" "39" s

def yellow (s : String) : String := marked "33" "39" s

def cyan (s : String) : String := marked "36" "39" s

def gray (s : String) : String := marked "90" "39" s

def standingOut (s : String) : String := bold (marked "97" "39" s)

def successSign : String := marked "32;1" "0" "✓"

def particularSign : String := marked "34" "0" "→"

def errorSign : String := marked "31;1" "0" "Error:"

/-! ### Texts -/

def idText (t : Task) : String := String.ofList (signedDecimal t.id)

/-- A line with a particular of a new task. -/
def particular (name value : String) : String := "  " ++ particularSign ++ " " ++ name ++ ": " ++ value ++ "\n"

def addedText (t : Task) : String :=
  successSign ++ " Created task: " ++ standingOut t.title ++ "\n" ++
    particular "Task ID" (yellow (idText t)) ++
    particular "Date" (cyan (displayDate t.date)) ++
    match t.rule? with
    | .ok (some rule) => particular "Repeats" rule.describe
    | _ => ""

def commentWidth : Nat := 40

/-- A comment that fits its column. -/
def shortened (comment : String) : String :=
  if comment.length ≤ commentWidth then comment
  else String.ofList (comment.toList.take (commentWidth - 1) ++ ['…'])

def listedCells (t : Task) : List String :=
  [idText t, displayDate t.date, t.title, if t.isRepeating then t.recurrence else "-",
    shortened t.comment]

def listingText (ts : List Task) : String :=
  if ts.isEmpty then "No tasks found.\n"
  else grid ["ID", "Date", "Title", "Repeat", "Comment"] (ts.map listedCells) ++ "\n"

/-- The date of a task, marked by how it lies to today. -/
def dateText (stored : String) (today : Date) : String :=
  match Date.ofCompact? stored with
  | some d =>
      if d < today then red (displayDate stored) ++ " (overdue)"
      else if d = today then yellow (displayDate stored) ++ " (today)"
      else cyan (displayDate stored)
  | none => cyan (displayDate stored)

/-- The rule of a task with its description, or with the reason why it is none. -/
def recurrenceText (t : Task) : String :=
  match t.rule? with
  | .ok (some rule) => t.recurrence ++ " (" ++ rule.describe ++ ")"
  | .ok none => gray "never"
  | .error e => t.recurrence ++ " (" ++ red e.message ++ ")"

def detailsText (t : Task) (today : Date) : String :=
  bold "Task" ++ " " ++ yellow (idText t) ++ "\n" ++
    "  Title:   " ++ standingOut t.title ++ "\n" ++
    "  Date:    " ++ dateText t.date today ++ "\n" ++
    "  Repeat:  " ++ recurrenceText t ++ "\n" ++
    if t.comment = "" then "" else "  Comment: " ++ t.comment ++ "\n"

def completedText : Completion → String
  | .removed t => "Completed task: '" ++ t.title ++ "'\n"
  | .rescheduled t previous =>
      "Completed task: '" ++ t.title ++ "'\nNext occurrence: " ++ displayDate t.date ++
        " (was " ++ displayDate previous ++ ")\n"

def Report.text : Report → String
  | .added t => addedText t
  | .listing ts => listingText ts
  | .details t today => detailsText t today
  | .json t => t.toJson ++ "\n"
  | .changed t => "Updated task with ID: " ++ idText t ++ "\n  Date: " ++ displayDate t.date ++ "\n"
  | .deletionCancelled => "Deletion cancelled.\n"
  | .deleted t => "Deleted task: '" ++ t.title ++ "'\n"
  | .completed c => completedText c
  | .nextDate date => date ++ "\n"
  | .emptyRule => "Empty rule: the task does not repeat.\n"
  | .validRule r => successSign ++ " Valid rule: " ++ standingOut r.text ++ " (" ++ r.describe ++ ")\n"

/-- The wording of an error for people at a terminal. -/
def errorMessage : TaskError → String
  | .notFound id => "Task with ID '" ++ String.ofList (signedDecimal id) ++ "' not found."
  | .database fault => "Database error: " ++ fault.message
  | .unprepared fault =>
      "Could not prepare the database: while executing migrations: " ++ fault.message
  | e => e.message

def errorText (e : TaskError) : String := errorSign ++ " " ++ errorMessage e ++ "\n"

end Agenda.CommandLine
