import Agenda.Task.Error
import Agenda.Task.Search
import Agenda.Task.Table

/-!
# Operations on the table of tasks

Each operation takes the table and, where it needs the clock, a moment.  It gives its result and the new
table, or the reason why it failed; there is no table after a failure, so a failure changes nothing.

* `Table.add`, `Table.change` — store a task; title, rule and date are checked in this order.
* `Table.setDate`, `Table.delete`, `Table.complete` — act on one task.
* `Table.list`, `Table.search` — look without changing anything.
* `Request`, `Table.perform` — the operations as values, for sequences of them.
-/

namespace Agenda

def longestTitle : Nat := 256

/-- Refuses a title that is blank or too long. -/
def checkTitle (title : String) : Except TaskError Unit :=
  if Text.trimmed title = "" then throw (.invalidInput .emptyTitle)
  else if title.length > longestTitle then throw (.invalidInput .longTitle)
  else pure ()

/-- A draft as it is stored: its title and its rule pass their checks, and its date is up to date. -/
def TaskDraft.prepare (now : Moment) (draft : TaskDraft) : Except TaskError TaskDraft := do
  checkTitle draft.title
  (Rule.check draft.recurrence).mapError .rejected
  let date ← (placeDate draft.date draft.recurrence now).mapError .placement
  pure { draft with date := date }

namespace Table

def get (t : Table) (id : Int) : Except TaskError Task :=
  match t.find? id with
  | some task => .ok task
  | none => .error (.notFound id)

def add (t : Table) (now : Moment) (draft : TaskDraft) : Except TaskError (Task × Table) := do
  let prepared ← draft.prepare now
  match t.insertNew? prepared with
  | some result => pure result
  | none => throw (.database .idsExhausted)

/-- Overwrites fields of a task and brings it up to date. -/
def change (t : Table) (now : Moment) (id : Int) (c : TaskChange) : Except TaskError (Task × Table) := do
  let task ← t.get id
  let prepared ← (c.applyTo task).draft.prepare now
  pure (prepared.withId id, t.replace (prepared.withId id))

/-- Sets the date of a task as it is given. -/
def setDate (t : Table) (id : Int) (date : String) : Except TaskError Table := do
  if (Date.ofCompact? date).isNone then throw (.invalidInput (.malformedDate date))
  let task ← t.get id
  pure (t.replace { task with date := date })

def delete (t : Table) (id : Int) : Except TaskError Table := do
  let task ← t.get id
  pure (t.erase task.id)

/-- The date on which a repeating task goes on. -/
def dateAfterCompletion (now : Moment) (rule : Rule) (current : String) : Except ScheduleError String := do
  let day ← readStart current
  let next ← withinCalendar (rule.afterCompletion? now.date day)
  pure next.compact

/-- Marks a task as done: a repeating task moves to its next date, any other task goes. -/
def complete (t : Table) (now : Moment) (id : Int) : Except TaskError (Completion × Table) := do
  let task ← t.get id
  match ← task.rule?.mapError (fun e => .schedule (.rule e)) with
  | none => pure (.removed task, t.erase id)
  | some rule =>
      let date ← (dateAfterCompletion now rule task.date).mapError .schedule
      let moved := { task with date := date }
      pure (.rescheduled moved task.date, t.replace moved)

def list (t : Table) (limit : Nat) : List Task := t.ordered.take limit

/-- The first tasks in the order of listings that a term selects.  A term that is too long fails as soon
as it is compared with a task. -/
def search (t : Table) (term : String) (limit : Nat) : Except TaskError (List Task) :=
  if (Search.parse term).isTooLong ∧ limit ≠ 0 ∧ t.rows ≠ [] then throw (.database .patternTooLong)
  else pure ((t.ordered.filter (Search.parse term).selects).take limit)

end Table

/-! ### Operations as values -/

inductive Request
  | add (draft : TaskDraft)
  | find (id : Int)
  | list (limit : Nat)
  | search (term : String) (limit : Nat)
  | change (id : Int) (c : TaskChange)
  | setDate (id : Int) (date : String)
  | delete (id : Int)
  | complete (id : Int)
deriving DecidableEq, Repr

inductive Answer
  | done
  | task (t : Task)
  | found (t : Option Task)
  | tasks (ts : List Task)
  | completion (c : Completion)
deriving DecidableEq, Repr

namespace Table

/-- The result of an operation and the table after it. -/
def attempt (t : Table) (now : Moment) : Request → Except TaskError (Answer × Table)
  | .add draft => (t.add now draft).map fun r => (.task r.1, r.2)
  | .find id => pure (.found (t.find? id), t)
  | .list limit => pure (.tasks (t.list limit), t)
  | .search term limit => (t.search term limit).map fun ts => (.tasks ts, t)
  | .change id c => (t.change now id c).map fun r => (.task r.1, r.2)
  | .setDate id date => (t.setDate id date).map fun r => (.done, r)
  | .delete id => (t.delete id).map fun r => (.done, r)
  | .complete id => (t.complete now id).map fun r => (.completion r.1, r.2)

/-- Carries out an operation; the table stays as it is if the operation fails. -/
def perform (t : Table) (now : Moment) (request : Request) : Except TaskError Answer × Table :=
  match t.attempt now request with
  | .ok (answer, after) => (.ok answer, after)
  | .error e => (.error e, t)

end Table

end Agenda
