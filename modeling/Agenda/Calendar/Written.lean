import Agenda.Calendar.Date
import Agenda.Text.Blank
import Agenda.Text.Number

/-!
# Written dates

A date has three written forms.  The compact form `YYYYMMDD` is the one that is stored, `DD.MM.YYYY` is
what people type, and `YYYY-MM-DD` is what people read.  The readers accept exactly padded digits that
name a real day, so only the years from 0 to 9999 can be read; a year outside is written with a sign.

* `Date.compact`, `Date.ofCompact?` — the stored form and its reader.
* `Date.ofDotted?` — the reader of the typed form; it has no blanks around it.
* `displayDate` — the form people read, or the stored text itself where it is no date.
-/

namespace Agenda

open Text

/-- A year as four digits, or with a sign and at least four digits outside the years 0 to 9999. -/
def writtenYear (year : Int) : List Char :=
  if year < 0 then '-' :: padded 4 year.natAbs
  else if year ≤ 9999 then padded 4 year.natAbs
  else '+' :: padded 4 year.natAbs

namespace Date

def compact (d : Date) : String :=
  String.ofList (writtenYear d.year ++ padded 2 d.month ++ padded 2 d.day)

/-- The form of a date for people to read, `YYYY-MM-DD`. -/
def dashed (d : Date) : String :=
  String.ofList (writtenYear d.year ++ '-' :: padded 2 d.month ++ '-' :: padded 2 d.day)

def ofDigits? (year month day : List Char) : Option Date := do
  let year ← digits? year
  let month ← digits? month
  let day ← digits? day
  of? year month day

/-- The date whose stored form is this text: eight digits that name a real day. -/
def ofCompact? (s : String) : Option Date :=
  match s.toList with
  | [y₁, y₂, y₃, y₄, m₁, m₂, d₁, d₂] => ofDigits? [y₁, y₂, y₃, y₄] [m₁, m₂] [d₁, d₂]
  | _ => none

/-- The date that this text names as `DD.MM.YYYY`. -/
def ofDottedChars? : List Char → Option Date
  | [d₁, d₂, '.', m₁, m₂, '.', y₁, y₂, y₃, y₄] => ofDigits? [y₁, y₂, y₃, y₄] [m₁, m₂] [d₁, d₂]
  | _ => none

/-- The date that this text names as `DD.MM.YYYY`, with blanks around it or not. -/
def ofDotted? (s : String) : Option Date := ofDottedChars? (trim s.toList)

end Date

/-- A stored date for people to read: a text that is no date stays as it is. -/
def displayDate (stored : String) : String :=
  match Date.ofCompact? stored with
  | some d => d.dashed
  | none => stored

example : Date.ofCompact? "20240229" = Date.of? 2024 2 29 := by decide

example : Date.ofCompact? "20250229" = none := by decide

example : Date.ofDotted? " 29.02.2024 " = Date.of? 2024 2 29 := by decide

example : (Date.of? (-5) 3 10).map Date.compact = some "-00050310" := by decide

example : (Date.of? 10000 1 1).map Date.compact = some "+100000101" := by decide

end Agenda
