import Agenda.Task.Placement

/-!
# What can go wrong with tasks

The causes for which an operation on stored tasks fails, and their wording.

* `TaskError.message` — the wording of every cause.
-/

namespace Agenda

open Text

/-- Why an input is refused. -/
inductive InputFault
  /-- The title holds nothing but blanks. -/
  | emptyTitle
  /-- The title is too long. -/
  | longTitle
  /-- A text stands where a stored date is due. -/
  | malformedDate (text : String)
  /-- A text stands where a date in any of the typed forms is due. -/
  | notADate (text : String)
  /-- A change names no field. -/
  | nothingToChange
deriving DecidableEq, Repr

def InputFault.message : InputFault → String
  | .emptyTitle => "task title must not be empty"
  | .longTitle => "task title must be at most 256 characters"
  | .malformedDate text => "date '" ++ text ++ "' must use the YYYYMMDD format"
  | .notADate text =>
      "'" ++ text ++ "' is not a date, expected YYYYMMDD, DD.MM.YYYY, today or tomorrow"
  | .nothingToChange =>
      "nothing to change, pass at least one of --title, --date, --comment or --repeat"

/-- Why a database cannot do what it is asked for. -/
inductive DatabaseFault
  /-- There is no file under the path and none can be made. -/
  | cannotOpen
  /-- Its path holds a NUL character. -/
  | nulInPath
  /-- Its address names another machine. -/
  | unknownAuthority (name : String)
  /-- Its address asks for an access that does not exist. -/
  | unknownAccess (name : String)
  /-- Its address asks for a cache that does not exist. -/
  | unknownCache (name : String)
  /-- Its address asks for a file system that does not exist. -/
  | unknownSystem (name : String)
  /-- It can be read only. -/
  | readOnly
  /-- It can be read only, and a change of it was broken off. -/
  | brokenOff
  /-- The file is something else. -/
  | notADatabase
  /-- A file cannot be read. -/
  | unreadable
  /-- A file cannot be removed. -/
  | undeletable
  /-- It holds no tasks. -/
  | noTable
  /-- Another row has this number. -/
  | idTaken
  /-- The greatest number was given out. -/
  | idsExhausted
  /-- The text to look for is too long. -/
  | patternTooLong
  /-- Anything else, with the report of the database. -/
  | other (report : String)
deriving DecidableEq, Repr

namespace DatabaseFault

def code : DatabaseFault → Nat
  | .cannotOpen => 14
  | .readOnly => 8
  | .brokenOff => 776
  | .notADatabase => 26
  | .unreadable => 266
  | .undeletable => 2570
  | .idTaken => 1555
  | .idsExhausted => 13
  | _ => 1

def wording : DatabaseFault → String
  | .cannotOpen => "unable to open database file"
  | .nulInPath => "filename passed to SQLite must not contain nul bytes"
  | .unknownAuthority name => "invalid uri authority: " ++ name
  | .unknownAccess name => "no such access mode: " ++ name
  | .unknownCache name => "no such cache mode: " ++ name
  | .unknownSystem name => "no such vfs: " ++ name
  | .readOnly => "attempt to write a readonly database"
  | .brokenOff => "attempt to write a readonly database"
  | .notADatabase => "file is not a database"
  | .unreadable => "disk I/O error"
  | .undeletable => "disk I/O error"
  | .noTable => "no such table: scheduler"
  | .idTaken => "UNIQUE constraint failed: scheduler.id"
  | .idsExhausted => "database or disk is full"
  | .patternTooLong => "LIKE or GLOB pattern too complex"
  | .other report => report

/-- The report of a database.  A path with a NUL character does not get as far as to the database. -/
def message : DatabaseFault → String
  | .nulInPath => "error communicating with database: " ++ wording .nulInPath
  | .other report => report
  | fault => "error returned from database: (code: " ++ String.ofList (decimal fault.code) ++ ") " ++ fault.wording

end DatabaseFault

inductive TaskError
  /-- No task has this number. -/
  | notFound (id : Int)
  /-- The input is refused. -/
  | invalidInput (fault : InputFault)
  /-- The database cannot do it. -/
  | database (fault : DatabaseFault)
  /-- The database cannot be made ready for tasks. -/
  | unprepared (fault : DatabaseFault)
  /-- A directory for the database cannot be made. -/
  | noDirectory
  /-- The rule does not pass the check. -/
  | rejected (r : Rejection)
  /-- There is no next date. -/
  | schedule (e : ScheduleError)
  /-- The task has no place in the calendar. -/
  | placement (e : PlacementError)
deriving DecidableEq, Repr

def TaskError.message : TaskError → String
  | .notFound id => "Task not found: " ++ String.ofList (signedDecimal id)
  | .invalidInput fault => "Invalid input: " ++ fault.message
  | .database _ => "Database error"
  | .unprepared _ => "Migration error"
  | .noDirectory => "IO error"
  | .rejected r => r.message
  | .schedule e => e.message
  | .placement e => e.message

end Agenda
