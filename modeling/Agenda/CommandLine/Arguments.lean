import Agenda.CommandLine.Command
import Agenda.CommandLine.Form
import Agenda.CommandLine.Usage

/-!
# Reading arguments

Arguments are read from left to right.  An option is a word that begins with a hyphen, unless it follows
the word `--`; its value follows an equals sign, stands in the next word, or follows the letter of the
option.  A value is looked at when the next option or argument is met, so a word without a meaning right
behind it is reported first.

* `readCommand` — the values of the options and arguments of a command.
* `readProgram` — the command in the arguments of the program.
-/

namespace Agenda.CommandLine

open Text

/-- An option or argument whose value was not looked at yet, or is still to come. -/
structure Pending where
  name : String
  form : ValueForm
  value : Option String
deriving DecidableEq, Repr

structure Reading where
  /-- The options and arguments that were looked at, with their values; a flag has the empty value. -/
  found : List (String × String)
  pending : Option Pending
  /-- Whether the argument without an option was met. -/
  hasArgument : Bool
deriving DecidableEq, Repr

namespace Reading

def start : Reading := ⟨[], none, false⟩

def has (r : Reading) (name : String) : Bool := r.found.any fun entry => entry.1 == name

def value? (r : Reading) (name : String) : Option String :=
  (r.found.find? fun entry => entry.1 == name).map Prod.snd

def awaitsValue (r : Reading) : Bool :=
  match r.pending with
  | some p => p.value.isNone
  | none => false

/-- Keeps the value of an option; no option is given twice. -/
def keep (r : Reading) (name value : String) : Except Usage Reading :=
  if r.has name then throw .conflict else pure { r with found := r.found ++ [(name, value)] }

/-- Looks at the value that is pending. -/
def settle (r : Reading) : Except Usage Reading :=
  match r.pending with
  | none => pure r
  | some ⟨_, _, none⟩ => throw .missingValue
  | some ⟨name, form, some value⟩ => do
      let after ← { r with pending := none }.keep name value
      if form.accepts value then pure after else throw .invalidValue

/-- Begins with an option whose value is to come, or is there already. -/
def await (r : Reading) (name : String) (form : ValueForm) (value : Option String) :
    Except Usage Reading := do
  let r ← r.settle
  pure { r with pending := some ⟨name, form, value⟩ }

/-- Looks at an option that has its value behind it. -/
def give (r : Reading) (name : String) (form : ValueForm) (value : String) : Except Usage Reading := do
  let r ← r.await name form (some value)
  r.settle

/-- Meets an option without a value behind it. -/
def meet (r : Reading) (o : OptionForm) : Except Usage Reading := do
  match o.effect with
  | .takes form => r.await o.name form none
  | .flags => (← r.settle).keep o.name ""
  | .showsHelp =>
      let _ ← r.settle
      throw .help
  | .showsVersion =>
      let _ ← r.settle
      throw .version

end Reading

/-! ### Options -/

/-- Reads an option by its name, with the value behind an equals sign if there is one. -/
def readNamed (form : CommandForm) (r : Reading) (s : List Char) : Except Usage Reading :=
  let name := String.ofList (s.takeWhile (· != '='))
  match form.options.find? (fun o => o.name == name), s.dropWhile (· != '=') with
  | none, _ => throw .unknownArgument
  | some o, [] => r.meet o
  | some o, _ :: value =>
      match o.effect with
      | .takes valueForm => r.give o.name valueForm (String.ofList value)
      | _ => throw .unneededValue

/-- Reads letters of options.  The first option that takes a value has the rest of the word for it. -/
def readLetters (form : CommandForm) (r : Reading) : List Char → Except Usage Reading
  | [] => pure r
  | c :: s =>
      match form.options.find? (fun o => o.letter == some c) with
      | none => throw .unknownArgument
      | some o =>
          match o.effect, s with
          | .takes valueForm, '=' :: value => r.give o.name valueForm (String.ofList value)
          | .takes valueForm, d :: value => r.give o.name valueForm (String.ofList (d :: value))
          | _, s => do
              let r ← r.meet o
              readLetters form r s

/-- Reads a word that begins with a hyphen; none if the word is no option. -/
def readOption? (form : CommandForm) (r : Reading) (word : String) : Option (Except Usage Reading) :=
  match word.toList with
  | '-' :: '-' :: s => some (readNamed form r s)
  | '-' :: c :: s => some (readLetters form r (c :: s))
  | _ => none

/-! ### Commands -/

def readArgument (form : CommandForm) (r : Reading) (word : String) : Except Usage Reading :=
  match form.argument with
  | some valueForm =>
      if r.hasArgument then throw .unknownArgument
      else do
        let r ← r.await argumentName valueForm (some word)
        pure { r with hasArgument := true }
  | none => throw .unknownArgument

/-- Refuses options that exclude each other, then missing arguments. -/
def checkComplete (form : CommandForm) (r : Reading) : Except Usage Unit :=
  if form.excluding.any (fun (a, b) => r.has a && r.has b) then throw .conflict
  else if (form.argument.isSome && !r.hasArgument) || form.required.any (fun name => !r.has name) then
    throw .missingArgument
  else pure ()

/-- Reads the words behind the name of a command.  Behind the word `--` no word is an option. -/
def readCommand (form : CommandForm) (r : Reading) (optionsEnded : Bool) :
    List String → Except Usage Reading
  | [] => do
      let r ← r.settle
      checkComplete form r
      pure r
  | word :: rest =>
      if optionsEnded then do
        let r ← readArgument form r word
        readCommand form r true rest
      else if word = "--" then readCommand form r true rest
      else match readOption? form r word with
        | some result => do
            let r ← result
            readCommand form r false rest
        | none =>
            match r.pending with
            | some ⟨name, valueForm, none⟩ =>
                readCommand form { r with pending := some ⟨name, valueForm, some word⟩ } false rest
            | _ => do
                let r ← readArgument form r word
                readCommand form r false rest

def Reading.number? (r : Reading) (name : String) (form : ValueForm) : Option Int :=
  (r.value? name).bind form.number?

def commandOf (form : CommandForm) (r : Reading) : Except Usage Command := do
  let id := (r.number? argumentName .id).getD 0
  let argument := (r.value? argumentName).getD ""
  match form.name with
  | "add" =>
      pure (.onTasks (.add argument (r.value? "date") (r.value? "comment") (r.value? "repeat")))
  | "list" => pure (.onTasks (.list (r.value? "search") ((r.number? "limit" .limit).map Int.toNat)))
  | "show" => pure (.onTasks (.show id (r.has "json")))
  | "edit" =>
      pure (.onTasks (.edit id (r.value? "title") (r.value? "date") (r.value? "comment")
        (r.has "comment-clear") (r.value? "repeat") (r.has "repeat-clear")))
  | "delete" => pure (.onTasks (.delete id (r.has "force")))
  | "done" => pure (.onTasks (.done id))
  | "next-date" =>
      pure (.nextDate ((r.value? "date").getD "") ((r.value? "repeat").getD "") (r.value? "now"))
  | "check" => pure (.check argument)
  | _ => throw .unknownCommand

def formOf? (name : String) : Option CommandForm := commandForms.find? fun form => form.name == name

/-- Why help on these words ends the program: the words may name one command, or help itself. -/
def helpOn : List String → Usage
  | [] => .help
  | [name] => if name = helpWord ∨ (formOf? name).isSome then .help else .unknownCommand
  | _ => .unknownCommand

/-- Reads the words in front of the command, the command and the words behind it.  A database named behind
the command counts before one named in front of it. -/
def readProgram (r : Reading) (optionsEnded : Bool) : List String → Except Usage Invocation
  | [] => do
      let r ← r.settle
      throw (if r.found.isEmpty then .nothingGiven else .missingCommand)
  | word :: rest =>
      if optionsEnded then
        throw (if word = helpWord ∨ (formOf? word).isSome then .unknownArgument else .unknownCommand)
      else if !r.awaitsValue && word == helpWord then throw (helpOn rest)
      else match if r.awaitsValue then none else formOf? word with
        | some form => do
            let own ← readCommand form .start false rest
            let r ← r.settle
            let command ← commandOf form own
            pure ⟨(own.value? "database").or (r.value? "database"), command⟩
        | none =>
            if word = "--" then readProgram r true rest
            else match readOption? programForm r word with
              | some result => do
                  let r ← result
                  readProgram r false rest
              | none =>
                  match r.pending with
                  | some ⟨name, valueForm, none⟩ =>
                      readProgram { r with pending := some ⟨name, valueForm, some word⟩ } false rest
                  | _ => throw .unknownCommand

def read (arguments : List String) : Except Usage Invocation := readProgram .start false arguments

end Agenda.CommandLine
