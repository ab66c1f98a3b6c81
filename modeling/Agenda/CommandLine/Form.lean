import Agenda.Text.Number

/-!
# Forms of arguments

Which options a command has, and which arguments it needs.

* `programForm` — the options in front of the command.
* `commandForms` — the commands.
-/

namespace Agenda.CommandLine

open Text

/-- What a value may be. -/
inductive ValueForm
  | text
  /-- The number of a task. -/
  | id
  /-- A limit of a listing. -/
  | limit
deriving DecidableEq, Repr

def ValueForm.number? : ValueForm → String → Option Int
  | .text, _ => none
  | .id, s => signed64? s.toList
  | .limit, s => integerWithin? 0 4294967295 s.toList

def ValueForm.accepts (form : ValueForm) (s : String) : Bool :=
  match form with
  | .text => true
  | form => (form.number? s).isSome

inductive OptionEffect
  /-- It takes a value. -/
  | takes (form : ValueForm)
  /-- It is a flag. -/
  | flags
  /-- It asks for help. -/
  | showsHelp
  /-- It asks for the version. -/
  | showsVersion
deriving DecidableEq, Repr

structure OptionForm where
  name : String
  letter : Option Char
  effect : OptionEffect
deriving DecidableEq, Repr

structure CommandForm where
  name : String
  /-- The argument without an option. -/
  argument : Option ValueForm
  options : List OptionForm
  /-- The options that must be given. -/
  required : List String
  /-- Options that exclude each other. -/
  excluding : List (String × String)
deriving DecidableEq, Repr

/-- An option without a letter that takes a text. -/
def textOption (name : String) : OptionForm := ⟨name, none, .takes .text⟩

def commonOptions : List OptionForm := [textOption "database", ⟨"help", some 'h', .showsHelp⟩]

def programForm : CommandForm :=
  ⟨"", none, commonOptions ++ [⟨"version", some 'V', .showsVersion⟩], [], []⟩

def commandForms : List CommandForm :=
  [⟨"add", some .text,
      [⟨"date", some 'd', .takes .text⟩, ⟨"comment", some 'c', .takes .text⟩,
        ⟨"repeat", some 'r', .takes .text⟩] ++ commonOptions, [], []⟩,
    ⟨"list", none,
      [⟨"search", some 's', .takes .text⟩, ⟨"limit", some 'l', .takes .limit⟩] ++ commonOptions,
      [], []⟩,
    ⟨"show", some .id, ⟨"json", none, .flags⟩ :: commonOptions, [], []⟩,
    ⟨"edit", some .id,
      [textOption "title", textOption "date", textOption "comment", ⟨"comment-clear", none, .flags⟩,
        textOption "repeat", ⟨"repeat-clear", none, .flags⟩] ++ commonOptions, [],
      [("comment", "comment-clear"), ("repeat", "repeat-clear")]⟩,
    ⟨"delete", some .id, ⟨"force", some 'f', .flags⟩ :: commonOptions, [], []⟩,
    ⟨"done", some .id, commonOptions, [], []⟩,
    ⟨"next-date", none, [textOption "date", textOption "repeat", textOption "now"] ++ commonOptions,
      ["date", "repeat"], []⟩,
    ⟨"check", some .text, commonOptions, [], []⟩]

def argumentName : String := ""

def helpWord : String := "help"

end Agenda.CommandLine
