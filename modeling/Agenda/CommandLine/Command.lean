/-!
# Commands

What the program is told to do.  Most commands act on a table of tasks; two only calculate.

* `Invocation` — a command with the database that it is to use.
-/

namespace Agenda.CommandLine

inductive TaskCommand
  /-- Stores a new task. -/
  | add (title : String) (date comment recurrence : Option String)
  /-- Lists tasks, perhaps only those that a term selects. -/
  | list (term : Option String) (limit : Option Nat)
  /-- Shows a task. -/
  | show (id : Int) (asJson : Bool)
  /-- Overwrites fields of a task. -/
  | edit (id : Int) (title date comment : Option String) (clearComment : Bool)
      (recurrence : Option String) (clearRecurrence : Bool)
  /-- Removes a task, if that is meant. -/
  | delete (id : Int) (force : Bool)
  /-- Marks a task as done. -/
  | done (id : Int)
deriving DecidableEq, Repr

inductive Command
  | onTasks (c : TaskCommand)
  /-- Calculates the next date of a rule. -/
  | nextDate (date recurrence : String) (now : Option String)
  /-- Checks a rule. -/
  | check (rule : String)
deriving DecidableEq, Repr

/-- A command with the database named for it. -/
structure Invocation where
  database : Option String
  command : Command
deriving DecidableEq, Repr

end Agenda.CommandLine
