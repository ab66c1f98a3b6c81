/-!
# Usage

Why the arguments of the program do not make a command.  Asking for help or for the version ends the
program without an error.

* `Usage.exitCode` — the exit code of the program.
-/

namespace Agenda.CommandLine

inductive Usage
  /-- Help is asked for. -/
  | help
  /-- The version is asked for. -/
  | version
  /-- There is nothing at all. -/
  | nothingGiven
  /-- There are options but no command. -/
  | missingCommand
  /-- A word stands in the place of a command and is none. -/
  | unknownCommand
  /-- An option or a word has no meaning. -/
  | unknownArgument
  /-- An option has no value. -/
  | missingValue
  /-- A flag has a value. -/
  | unneededValue
  /-- A value is no number of the right size. -/
  | invalidValue
  /-- An option is given twice, or with one that excludes it. -/
  | conflict
  /-- An argument is missing. -/
  | missingArgument
deriving DecidableEq, Repr

def Usage.exitCode : Usage → Nat
  | .help | .version => 0
  | _ => 2

end Agenda.CommandLine
