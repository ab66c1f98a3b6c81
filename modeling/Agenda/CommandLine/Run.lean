import Agenda.Calendar.Spoken
import Agenda.CommandLine.Arguments
import Agenda.CommandLine.Report
import Agenda.Disk.Opening
import Agenda.Settings.Sources
import Agenda.Task.Operation

/-!
# Running the program

A run carries out the command that its arguments mean, under the settings that their sources make, and ends with
its report or its error.  What the arguments mean, what the settings are, what is answered at the terminal and
where tasks are kept is given to it.

* `TaskCommand.act` — a command on the tasks of a repository.
* `Run`, `Run.on` — a run over any storage.
* `run` — a run on a disk, from the arguments and the environment.
-/

namespace Agenda.CommandLine

open Procedure Text

def editChange (today : Date) (title date comment : Option String) (clearComment : Bool)
    (recurrence : Option String) (clearRecurrence : Bool) : TaskChange where
  title := title
  date := date.map fun d => resolveDate d today
  comment := if clearComment then some "" else comment
  recurrence := if clearRecurrence then some "" else recurrence.map trimmed

def addedDraft (today : Date) (title : String) (date comment recurrence : Option String) : TaskDraft where
  title := title
  date := date.elim "" fun d => resolveDate d today
  comment := comment.getD ""
  recurrence := recurrence.elim "" trimmed

/-- Carries out a command on the tasks of a repository.  Deleting a task that is not to be deleted by force asks
whether that is meant; where nothing can be asked, it is not. -/
def TaskCommand.act {World : Type} (tasks : Repository World) (settings : Settings) (now : Moment)
    (answer? : Option Bool) : TaskCommand → Procedure World Report
  | .add title date comment recurrence => do
      let task ← tasks.add (addedDraft now.date title date comment recurrence)
      return .added task
  | .list term limit => do
      let limit := limit.getD settings.listLimit
      let term := trimmed (term.getD "")
      let found ← if term = "" then tasks.list limit else tasks.search term limit
      return .listing found
  | .show id asJson => do
      let task ← expectTask id (← tasks.find id)
      return if asJson then .json task else .details task now.date
  | .edit id title date comment clearComment recurrence clearRecurrence => do
      let c := editChange now.date title date comment clearComment recurrence clearRecurrence
      if c.isEmpty then throw (.invalidInput .nothingToChange)
      let task ← tasks.change id c
      return .changed task
  | .delete id force => do
      let task ← expectTask id (← tasks.find id)
      if force || answer?.getD false then
        tasks.delete task.id
        return .deleted task
      else return .deletionCancelled
  | .done id => do
      let completion ← tasks.complete id
      return .completed completion

/-- The report of a command on a table of tasks, and the table after it. -/
def TaskCommand.perform (settings : Settings) (now : Moment) (answer? : Option Bool) (table : Table)
    (c : TaskCommand) : Except TaskError (Report × Table) :=
  match (c.act (.ofTable now) settings now answer?).run table with
  | (.ok report, after) => .ok (report, after)
  | (.error e, _) => .error e

def nextDateReport (now : Moment) (date recurrence : String) (reference : Option String) :
    Except TaskError Report := do
  let moment ← match reference with
    | some day => Moment.midnight <$> readDateArgument day now.date
    | none => pure now
  let next ← (nextDate moment (trimmed date) recurrence).mapError .schedule
  pure (.nextDate next)

def checkReport (rule : String) : Except TaskError Report :=
  if rule = "" then pure .emptyRule
  else match Rule.parse rule with
    | .ok r => pure (.validRule r)
    | .error e => throw (.rejected (.ofRuleError e))

inductive Ending
  /-- The arguments make no command. -/
  | usage (u : Usage)
  /-- The command was carried out. -/
  | finished (exitCode : Nat) (output errorOutput : String)
deriving DecidableEq, Repr

def Ending.exitCode : Ending → Nat
  | .usage u => u.exitCode
  | .finished code _ _ => code

def endingOf : Except TaskError Report → Ending
  | .ok report => .finished 0 report.text ""
  | .error e => .finished 1 "" (errorText e)

/-- A run of the program, as it is decided from outside. -/
structure Run where
  /-- What the arguments mean. -/
  parsed : Except Usage Invocation
  /-- What the sources of settings say. -/
  loaded : Except SettingsError Settings
  now : Moment
  /-- What is answered at the terminal, if there is one to ask at. -/
  answer? : Option Bool

namespace Run

/-- The settings of a run; sources that make no sense are passed over. -/
def settings (r : Run) : Settings := r.loaded.toOption.getD .standard

/-- The path of the database for an invocation: the one that it names, else the one in the settings. -/
def databasePath (r : Run) (i : Invocation) : String := i.database.getD r.settings.databasePath

variable {World Connection : Type} (S : Storage World Connection)

def perform (r : Run) (i : Invocation) : Procedure World Report :=
  match i.command with
  | .nextDate date recurrence reference => given (nextDateReport r.now date recurrence reference)
  | .check rule => given (checkReport rule)
  | .onTasks c =>
      S.withTasks (r.databasePath i) r.now fun tasks => c.act tasks r.settings r.now r.answer?

/-- How a run ends, and the world after it. -/
def on (r : Run) (w : World) : Ending × World :=
  match r.parsed with
  | .error u => (.usage u, w)
  | .ok i =>
      let (result, after) := (r.perform S i).run w
      (endingOf result, after)

end Run

/-! ### Runs on a disk -/

def settingsPlace : Place := ⟨["cadence.toml"]⟩

/-- What a disk and the environment say of the settings.  A table of tasks is no settings file. -/
def loadedFrom (disk : Disk) (environment : List (String × String)) : Except SettingsError Settings :=
  match disk.entry? settingsPlace with
  | some (.text content) => Settings.load (some content) environment
  | some (.table _) => .error .unreadableFile
  | _ => Settings.load none environment

/-- The run that arguments, a disk and the environment ask for, with nobody at the terminal. -/
def runOf (environment : List (String × String)) (now : Moment) (disk : Disk) (arguments : List String) : Run where
  parsed := read arguments
  loaded := loadedFrom disk environment
  now := now
  answer? := none

def run (environment : List (String × String)) (now : Moment) (disk : Disk) (arguments : List String) :
    Ending × Disk :=
  (runOf environment now disk arguments).on Disk.storage disk

end Agenda.CommandLine
