import Agenda.CommandLine.Help
import Agenda.CommandLine.Run
import Agenda.Task.Archive
import Std.Time.Zoned

/-!
# The program

Reads the environment, the clock and the part of the disk that matters, runs the program and writes the disk
back.  All that is decided is decided by `CommandLine.run`.

* `main` — the program.
-/

namespace Agenda

open CommandLine

/-- The names of the variables that set a key. -/
def variableNames : List String :=
  let names := ["CADENCE_DATABASE_PATH", "CADENCE_LIST_LIMIT", "CADENCE_LOG_LEVEL"]
  names ++ names.map fun name => name.toLower

def readEnvironment : IO (List (String × String)) :=
  variableNames.filterMapM fun name => do
    return (← IO.getEnv name).map fun value => (name, value)

def readClock : IO Moment := do
  let now ← Std.Time.PlainDateTime.now
  let date := Date.of? now.date.year.toInt now.date.month.val.toNat now.date.day.val.toNat
  let time := TimeOfDay.of? now.time.hour.val.toNat now.time.minute.val.toNat
    now.time.second.val.toNat now.time.nanosecond.val.toNat
  match date, time with
  | some date, some time => return ⟨date, time⟩
  | _, _ => throw (IO.userError "the clock is out of range")

def pathOf (place : Place) : String :=
  match place.names with
  | "/" :: names => "/" ++ String.intercalate "/" names
  | names => String.intercalate "/" names

def readEntry? (place : Place) : IO (Option Entry) := do
  try
    if ← (← IO.FS.realPath (pathOf place)).isDir then return some .directory
    let content ← IO.FS.readFile (pathOf place)
    return some ((Table.ofJson? content).elim (.text content) .table)
  catch _ =>
    return none

/-- The disk with what is in some places on the real disk. -/
def readDisk (places : List Place) : IO Disk :=
  places.foldlM (fun disk place => do return (← readEntry? place).elim disk (disk.put place)) .empty

def writeEntry (before after : Disk) (place : Place) : IO Unit := do
  match after.entry? place with
  | some .directory => if !before.isDirectory place then IO.FS.createDir (pathOf place)
  | some (.table t) => IO.FS.writeFile (pathOf place) t.toJson
  | some (.text s) => if (before.entry? place).isNone then IO.FS.writeFile (pathOf place) s
  | none => if (before.entry? place).isSome then IO.FS.removeFile (pathOf place)

def databasePath? (r : Run) : Option String := do
  let invocation ← r.parsed.toOption
  match invocation.command with
  | .onTasks _ => some (r.databasePath invocation)
  | _ => none

def report (ending : Ending) : IO UInt32 := do
  match ending with
  | .usage u => if u.exitCode = 0 then IO.print u.message else IO.eprint u.message
  | .finished _ output errorOutput =>
      IO.print output
      IO.eprint errorOutput
  return ending.exitCode.toUInt32

/-- Carries out the arguments, and gives the exit code. -/
def execute (arguments : List String) : IO UInt32 := do
  let environment ← readEnvironment
  let now ← readClock
  let settings ← readDisk [settingsPlace]
  let places := (databasePath? (runOf environment now settings arguments)).elim [] Disk.placesOf
  let before ← readDisk (settingsPlace :: places)
  let (ending, after) := CommandLine.run environment now before arguments
  try
    places.forM (writeEntry before after)
    report ending
  catch e =>
    IO.eprint (CommandLine.errorSign ++ " " ++ e.toString ++ "\n")
    return 1

end Agenda

def main (arguments : List String) : IO UInt32 := Agenda.execute arguments
