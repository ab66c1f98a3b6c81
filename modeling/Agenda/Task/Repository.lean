import Agenda.Task.Operation

/-!
# Repositories

A repository keeps tasks somewhere in a world.  Its operations are computations on that world that may fail,
and what they changed until then stays changed.

* `Procedure` — such computations.
* `Repository` — the operations on tasks, and `Repository.ofTable`, where the world is a table and every
  operation is carried out at once.
-/

namespace Agenda

/-- A computation on a world that may fail; what it changed until then stays changed. -/
abbrev Procedure (World α : Type) := ExceptT TaskError (StateM World) α

namespace Procedure

variable {World α : Type}

def run (procedure : Procedure World α) (w : World) : Except TaskError α × World := (ExceptT.run procedure).run w

/-- Goes on with the value of an outcome, or fails with its error. -/
def given (outcome : Except TaskError α) : Procedure World α := ExceptT.mk (pure outcome)

def expectTask (id : Int) (found : Option Task) : Procedure World Task :=
  given (found.elim (.error (.notFound id)) .ok)

/-- Looks at the world without changing it. -/
def looking (look : World → Except TaskError α) : Procedure World α := fun w => (look w, w)

/-- Changes the world, or fails and leaves it as it is. -/
def changing (change : World → Except TaskError (α × World)) : Procedure World α := fun w =>
  match change w with
  | .ok (a, after) => (.ok a, after)
  | .error e => (.error e, w)

end Procedure

structure Repository (World : Type) where
  add : TaskDraft → Procedure World Task
  find : Int → Procedure World (Option Task)
  list : Nat → Procedure World (List Task)
  search : String → Nat → Procedure World (List Task)
  change : Int → TaskChange → Procedure World Task
  setDate : Int → String → Procedure World Unit
  delete : Int → Procedure World Unit
  complete : Int → Procedure World Completion

namespace Repository

open Procedure

/-- The operations on a table, each of them carried out at once. -/
def ofTable (now : Moment) : Repository Table where
  add draft := changing fun t => t.add now draft
  find id := looking fun t => .ok (t.find? id)
  list limit := looking fun t => .ok (t.list limit)
  search term limit := looking fun t => t.search term limit
  change id c := changing fun t => t.change now id c
  setDate id date := changing fun t => (t.setDate id date).map fun u => ((), u)
  delete id := changing fun t => (t.delete id).map fun u => ((), u)
  complete id := changing fun t => t.complete now id

def perform {World : Type} (tasks : Repository World) : Request → Procedure World Answer
  | .add draft => return .task (← tasks.add draft)
  | .find id => return .found (← tasks.find id)
  | .list limit => return .tasks (← tasks.list limit)
  | .search term limit => return .tasks (← tasks.search term limit)
  | .change id c => return .task (← tasks.change id c)
  | .setDate id date => do
      tasks.setDate id date
      return .done
  | .delete id => do
      tasks.delete id
      return .done
  | .complete id => return .completion (← tasks.complete id)

end Repository

end Agenda
