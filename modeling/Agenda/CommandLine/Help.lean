import Agenda.CommandLine.Form
import Agenda.CommandLine.Usage

/-!
# Help

The commands and their options, as the program explains them.

* `helpText` — the commands and their options.
* `Usage.message` — what is printed when there is no command to carry out.
-/

namespace Agenda.CommandLine

def OptionForm.written (o : OptionForm) : String :=
  let letter := o.letter.elim "" fun c => String.ofList ['-', c, ',', ' ']
  let value := match o.effect with
    | .takes _ => " <" ++ o.name.toUpper ++ ">"
    | _ => ""
  letter ++ "--" ++ o.name ++ value

def CommandForm.written (form : CommandForm) : String :=
  let argument := match form.argument with
    | some .text => " <TEXT>"
    | some _ => " <ID>"
    | none => ""
  form.name ++ argument ++ "\n" ++ String.join (form.options.map fun o => "    " ++ o.written ++ "\n")

def helpText : String :=
  "Usage: cadence [OPTIONS] <COMMAND>\n\n" ++
    String.join (programForm.options.map fun o => "    " ++ o.written ++ "\n") ++ "\n" ++
    String.intercalate "\n" (commandForms.map CommandForm.written)

def versionText : String := "cadence 0.1.0\n"

/-- What is printed when there is no command to carry out. -/
def Usage.message : Usage → String
  | .help | .nothingGiven => helpText
  | .version => versionText
  | .missingCommand => "error: a command is missing\n"
  | .unknownCommand => "error: there is no such command\n"
  | .unknownArgument => "error: an argument was not expected\n"
  | .missingValue => "error: an option lacks its value\n"
  | .unneededValue => "error: a flag does not take a value\n"
  | .invalidValue => "error: a value is no number of the right size\n"
  | .conflict => "error: arguments exclude each other\n"
  | .missingArgument => "error: a required argument is missing\n"

end Agenda.CommandLine
