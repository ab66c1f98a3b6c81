import Agenda.Disk.Path
import Agenda.Task.Statements

/-!
# Storages

The program does not keep tasks itself.  It asks for a directory, opens a database, has it made ready for tasks
and hands statements to it, and a storage answers.  What is in the world of a storage is left open here; one
such world is the disk of `Agenda.Disk`.

* `Storage` — what the program asks for.
* `Storage.repository` — the operations on the tasks of an open database.
* `Storage.withTasks` — what is done with the database under a path, from its opening to its closing.
-/

namespace Agenda

inductive Target
  /-- A new database in memory. -/
  | memory
  /-- The database in a file, which is made if it is missing. -/
  | file (path : String)
deriving DecidableEq, Repr

/-- Answers to what the program asks of the world. -/
structure Storage (World Connection : Type) where
  /-- Whether something is under a path. -/
  holds : Path → World → Bool
  /-- Makes a directory and those on the way to it.  Tells whether it is there then. -/
  makeDirectories : Path → World → Bool × World
  connect : Target → Procedure World Connection
  /-- Makes a database ready for tasks. -/
  migrate : Connection → Procedure World Unit
  /-- The tasks in an open database. -/
  read : Connection → World → Table
  /-- The steps that an open database refuses at the time. -/
  refuses : Connection → World → Refusals
  /-- Puts other tasks into an open database. -/
  write : Connection → Table → World → World
  close : Connection → World → World

def inMemoryPath : String := "sqlite::memory:"

def Target.ofPath (path : String) : Target := if path = inMemoryPath then .memory else .file path

namespace Storage

open Procedure

variable {World Connection α : Type} (S : Storage World Connection)

/-! ### Statements on an open database -/

/-- Hands statements to a database that only look. -/
def looking (connection : Connection) (statements : Refusals → Procedure Table α) : Procedure World α := fun w =>
  (((statements (S.refuses connection w)).run (S.read connection w)).1, w)

def changing (connection : Connection) (statements : Refusals → Procedure Table α) : Procedure World α := fun w =>
  let (result, table) := (statements (S.refuses connection w)).run (S.read connection w)
  (result, S.write connection table w)

def repository (now : Moment) (connection : Connection) : Repository World where
  add draft := S.changing connection fun refuses => (Repository.ofStatements now refuses).add draft
  find id := S.looking connection fun refuses => (Repository.ofStatements now refuses).find id
  list limit := S.looking connection fun refuses => (Repository.ofStatements now refuses).list limit
  search term limit := S.looking connection fun refuses => (Repository.ofStatements now refuses).search term limit
  change id c := S.changing connection fun refuses => (Repository.ofStatements now refuses).change id c
  setDate id date := S.changing connection fun refuses => (Repository.ofStatements now refuses).setDate id date
  delete id := S.changing connection fun refuses => (Repository.ofStatements now refuses).delete id
  complete id := S.changing connection fun refuses => (Repository.ofStatements now refuses).complete id

/-! ### Opening and closing -/

/-- Makes the directory in which a path ends, unless something is there. -/
def makeParent (path : Path) : Procedure World Unit := fun w =>
  match path.parent? with
  | none => (.ok (), w)
  | some parent =>
      if parent.isEmpty || S.holds parent w then (.ok (), w)
      else match S.makeDirectories parent w with
        | (true, after) => (.ok (), after)
        | (false, after) => (.error .noDirectory, after)

/-- Makes the directory of a database, unless the database is in memory. -/
def makeWay (path : String) : Procedure World Unit :=
  if path = inMemoryPath then pure () else S.makeParent (.ofText path)

def connectTo (path : String) : Procedure World Connection := do
  S.makeWay path
  S.connect (.ofPath path)

/-- Does something with an open database and closes it, whether it fails or not. -/
def closing (connection : Connection) (procedure : Procedure World α) : Procedure World α := fun w =>
  let (result, after) := procedure.run w
  (result, S.close connection after)

/-- Does something with the tasks in the database under a path. -/
def withTasks (path : String) (now : Moment) (procedure : Repository World → Procedure World α) : Procedure World α := do
  let connection ← S.connectTo path
  S.closing connection do
    S.migrate connection
    procedure (S.repository now connection)

end Storage

end Agenda
