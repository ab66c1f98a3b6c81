import Agenda.Task.Repository

/-!
# Operations as statements

A database carries out an operation one statement after another, and may refuse any of them.  Statements that
write stand in a transaction, which takes back what was written in it if it fails.  A deletion stands outside
of any; it is carried out first, and the number of rows that are gone tells whether there was one to delete.

* `Refusals` — the steps that a database refuses.
* `Repository.ofStatements` — the operations, statement by statement.
* `Request.script` — an operation where nothing is refused.
-/

namespace Agenda

/-- A step that a database takes for an operation. -/
inductive Step
  | begin
  /-- Reads rows. -/
  | select
  /-- Puts a row into the table, overwrites one or removes one. -/
  | write
  | commit
deriving DecidableEq, Repr

/-- The steps that a database refuses, with its reports. -/
abbrev Refusals := Step → Option DatabaseFault

namespace Statement

open Procedure

variable {α : Type} (refuses : Refusals)

def take (step : Step) : Procedure Table Unit :=
  given ((refuses step).elim (.ok ()) fun fault => .error (.database fault))

/-- Takes back what was written if it fails. -/
def transaction (body : Procedure Table α) : Procedure Table α := fun t =>
  let wrapped : Procedure Table α := do
    take refuses .begin
    let a ← body
    take refuses .commit
    return a
  match wrapped.run t with
  | (.ok a, u) => (.ok a, u)
  | (.error e, _) => (.error e, t)

def selectRow (id : Int) : Procedure Table (Option Task) := do
  take refuses .select
  looking fun t => .ok (t.find? id)

/-- Reads rows in the order of listings, unless the condition on them cannot be told. -/
def selectRows (rows : Table → Except TaskError (List Task)) : Procedure Table (List Task) := do
  take refuses .select
  looking rows

/-- Puts a row into the table, under a new number. -/
def insertRow (draft : TaskDraft) : Procedure Table Task := do
  take refuses .write
  changing fun t =>
    match t.insertNew? draft with
    | some result => .ok result
    | none => .error (.database .idsExhausted)

/-- Overwrites the row with a number, and reads it again. -/
def updateRow (id : Int) (overwrite : Task → Task) : Procedure Table (Option Task) := do
  take refuses .write
  changing fun t =>
    match t.find? id with
    | some row => .ok (some (overwrite row), t.replace (overwrite row))
    | none => .ok (none, t)

/-- Removes the row with a number, and counts the rows that are gone. -/
def deleteRow (id : Int) : Procedure Table Nat := do
  take refuses .write
  changing fun t => .ok (t.rows.countP fun row => row.id == id, t.erase id)

end Statement

open Procedure Statement in
/-- The statements of the operations in order, with the checks between them. -/
def Repository.ofStatements (now : Moment) (refuses : Refusals) : Repository Table where
  add draft := do
    let prepared ← given (draft.prepare now)
    transaction refuses (insertRow refuses prepared)
  find id := selectRow refuses id
  list limit := selectRows refuses fun t => .ok (t.list limit)
  search term limit := selectRows refuses fun t => t.search term limit
  change id c := transaction refuses do
    let row ← expectTask id (← selectRow refuses id)
    let prepared ← given ((c.applyTo row).draft.prepare now)
    expectTask id (← updateRow refuses id fun row => prepared.withId row.id)
  setDate id date := do
    given (if (Date.ofCompact? date).isNone then .error (.invalidInput (.malformedDate date)) else .ok ())
    transaction refuses do
      let _ ← expectTask id (← updateRow refuses id fun row => { row with date := date })
  delete id := do
    let gone ← deleteRow refuses id
    given (if gone = 0 then .error (.notFound id) else .ok ())
  complete id := transaction refuses do
    let row ← expectTask id (← selectRow refuses id)
    match ← given (row.rule?.mapError fun e => .schedule (.rule e)) with
    | none => do
        let _ ← deleteRow refuses id
        return .removed row
    | some rule => do
        let next ← given ((Table.dateAfterCompletion now rule row.date).mapError .schedule)
        let moved ← expectTask id (← updateRow refuses id fun row => { row with date := next })
        return .rescheduled moved row.date

/-- The statements of an operation where none is refused. -/
def Request.script (now : Moment) (request : Request) : Procedure Table Answer :=
  (Repository.ofStatements now fun _ => none).perform request

end Agenda
