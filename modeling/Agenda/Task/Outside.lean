import Agenda.Task.Error
import Agenda.Task.Table

/-!
# Writes by other tools

Other tools may write to the database without any of the checks.  The database itself only keeps the
numbers of the rows different.

* `Table.insertUnchecked`, `Table.updateUnchecked` — what such a write does.
-/

namespace Agenda

namespace Table

/-- Stores a row under a number of its own. -/
def insertUnchecked (t : Table) (row : Task) : Except TaskError Table :=
  match t.insert? row with
  | some table => .ok table
  | none => .error (.database .idTaken)

/-- Overwrites columns of a row, if there is one with this number. -/
def updateUnchecked (t : Table) (id : Int) (c : TaskChange) : Table :=
  match t.find? id with
  | some row => t.replace (c.applyTo row)
  | none => t

end Table

end Agenda
