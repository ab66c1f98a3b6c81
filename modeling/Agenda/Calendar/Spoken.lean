import Agenda.Calendar.Written
import Agenda.Task.Error

/-!
# Dates as people type them

A date argument may be `today` or `tomorrow` in small letters or capitals, `DD.MM.YYYY`, or the stored
form.  No character outside the ASCII alphabet is a capital form of a letter of these two words, so the
small forms of the ASCII letters are all that is needed to compare them.

* `resolveDate` — the stored form of a date argument; other texts pass unchanged, so that whoever reads
  the date reports them.
* `readDateArgument` — the day that a date argument names.
-/

namespace Agenda

open Text

/-- The stored form of a date argument, without blanks around it. -/
def resolveDate (input : String) (today : Date) : String :=
  let text := trim input.toList
  let word := text.map Char.toLower
  if word = "today".toList then today.compact
  else if word = "tomorrow".toList then (today.next?).elim (String.ofList text) Date.compact
  else (Date.ofDottedChars? text).elim (String.ofList text) Date.compact

/-- The day that a date argument names. -/
def readDateArgument (input : String) (today : Date) : Except TaskError Date :=
  match Date.ofCompact? (resolveDate input today) with
  | some d => .ok d
  | none => .error (.invalidInput (.notADate input))

example : (Date.of? 2024 2 28).map (resolveDate " Tomorrow ") = some "20240229" := by decide

end Agenda
