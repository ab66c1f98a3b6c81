import Agenda.Settings.Basic
import Agenda.Settings.Quoted
import Agenda.Text.Blank
import Agenda.Text.Number

/-!
# Settings in the environment

A variable whose name begins with `nameStart`, in small letters or capitals, sets the key that the rest of
its name spells in small letters.  Its value is a truth value, a number, a text between double quotes, one
character between single quotes, a list or a group of values, or else a plain word.  What is none of them
is a text as it stands.  Points divide a name into keys of groups in groups.

* `Environment.value?` — the value at the beginning of a text.
* `Environment.valueOf` — the value that a text stands for.
* `Environment.entryOf?` — the key that a variable sets, with its value.
* `Environment.values` — the keys that variables set.
-/

namespace Agenda.Environment

open Settings Text

/-- What the names of the variables begin with, in small letters. -/
def nameStart : List Char := "cadence_".toList

def greatestNumber : Int := 18446744073709551615

/-- The digits behind a number, if there are no other characters before its exponent. -/
def isExponent : List Char → Bool
  | [] => true
  | c :: s => (c == 'e' || c == 'E') && (digits? (withoutSign s)).isSome

/-- Whether a text spells a number with a point in it. -/
def isDecimal (s : List Char) : Bool :=
  let s := withoutSign s
  match s.dropWhile Char.isDigit with
  | '.' :: r =>
      ((s.takeWhile Char.isDigit).length + (r.takeWhile Char.isDigit).length != 0) &&
        isExponent (r.dropWhile Char.isDigit)
  | _ => false

/-! ### Values -/

/-- White space around a value. -/
def isSpacing (c : Char) : Bool := c == ' ' || c == '\t' || c == '\n' || c == '\r' || c == '\x0c'

/-- A text without the white space in front of it. -/
def skip (s : List Char) : List Char := s.dropWhile isSpacing

def isSeparator (c : Char) : Bool := [',', '\x7b', '\x7d', '[', ']'].contains c

/-- The value that a plain word stands for. -/
def wordValue (word : List Char) : SettingValue :=
  if isDecimal word then .decimal
  else match integerWithin? least64 greatestNumber word with
    | some n => .integer n
    | none => .text (String.ofList word)

/-- The value at the beginning of a text that is no list and no group, and what follows it. -/
def single? (s : List Char) : Option (SettingValue × List Char) :=
  match "true".toList.isPrefixOf? s, "false".toList.isPrefixOf? s, s with
  | some rest, _, _ => some (.boolean true, rest)
  | _, some rest, _ => some (.boolean false, rest)
  | _, _, '"' :: rest => (quotedText? rest).map fun r => (.text (String.ofList r.1), r.2)
  | _, _, '\'' :: c :: '\'' :: rest => some (.text (String.ofList [c]), rest)
  | _, _, '\'' :: _ => none
  | _, _, s =>
      some (wordValue (trim (s.takeWhile fun c => !isSeparator c)), s.dropWhile fun c => !isSeparator c)

def afterKey? : List Char → Option (List Char)
  | '"' :: rest => (quotedText? rest).map Prod.snd
  | s =>
      let isKeyChar := fun c : Char => c.isAlphanum || c == '_' || c == '-'
      if (s.takeWhile isKeyChar).isEmpty then none else some (s.dropWhile isKeyChar)

def afterEquals? : List Char → Option (List Char)
  | '=' :: rest => some rest
  | _ => none

mutual

/-- The value at the beginning of a text, and what follows it; lists and groups go at most `depth` deep. -/
def value? : (depth : Nat) → List Char → Option (SettingValue × List Char)
  | 0, _ => none
  | depth + 1, s =>
      let read : Option (SettingValue × List Char) := match skip s with
        | '[' :: rest => (afterList? depth rest).map fun r => (.group, r)
        | '\x7b' :: rest => (afterGroup? depth rest).map fun r => (.group, r)
        | s => single? s
      read.map fun r => (r.1, skip r.2)

/-- What follows a list whose opening bracket was read. -/
def afterList? : (depth : Nat) → List Char → Option (List Char)
  | 0, _ => none
  | _ + 1, ']' :: rest => some rest
  | depth + 1, s => do
      match (← value? depth s).2 with
      | ',' :: rest => afterList? depth rest
      | ']' :: rest => some rest
      | _ => none

/-- What follows a group whose opening brace was read. -/
def afterGroup? : (depth : Nat) → List Char → Option (List Char)
  | 0, _ => none
  | _ + 1, '\x7d' :: rest => some rest
  | depth + 1, s => do
      let rest ← afterEquals? (skip (← afterKey? (skip s)))
      match (← value? depth rest).2 with
      | ',' :: rest => afterGroup? depth rest
      | '\x7d' :: rest => some rest
      | _ => none

end

def valueOf (s : String) : SettingValue :=
  match value? (2 * s.toList.length + 1) s.toList with
  | some (value, []) => value
  | _ => .text s

/-- The key that a variable sets, with its value. -/
def entryOf? (name value : String) : Option (String × SettingValue) :=
  let small := (trim name.toList).map Char.toLower
  if nameStart.isPrefixOf small then
    let parts := (trim (small.drop nameStart.length)).splitOn '.'
    if parts.any List.isEmpty then none
    else match parts with
      | [key] => some (String.ofList key, valueOf value)
      | key :: _ => some (String.ofList key, .group)
      | [] => none
  else none

/-- The keys that variables set, in the order of the variables. -/
def values (environment : List (String × String)) : SettingValues :=
  environment.filterMap fun (name, value) => entryOf? name value

example : values [("Cadence_List_Limit", " 7 "), ("HOME", "/")] = [("list_limit", .integer 7)] := by
  decide

example : valueOf " true " = .boolean true ∧ valueOf " truex" = .text " truex" ∧
    valueOf "[1, \x7ba = 'b'\x7d,]" = .group := by decide +kernel

end Agenda.Environment
