import Shellbox.Text.Quoted
import Shellbox.Text.Pieces
/-!
# Forms of a command line

A form says what may stand on a command line: which options there are, and whether an operand is
expected. The program has a form for its name and one for each of its commands. `Complaint` holds
the reasons for which a command line does not fit its form, and `Ending` the two ways in which
reading it may end early.
-/

namespace Shellbox.CommandLine

/-- What an option takes. -/
inductive Takes where
  /-- Nothing: the option asks for help. -/
  | help
  /-- One of the listed words. -/
  | choice (words : List String)
  /-- A whole number. -/
  | number
  deriving DecidableEq, Repr

/-- An option with its names, which are one letter behind a hyphen or a word behind two. -/
structure OptionForm where
  names : List String
  takes : Takes
  deriving DecidableEq, Repr

/-- How an option is called in a complaint. -/
def OptionForm.label (option : OptionForm) : String := Text.joinWith "/" option.names

/-- What is expected besides options. -/
inductive Operand where
  /-- One argument. -/
  | one (label : String)
  /-- A command with everything behind it. -/
  | command (label : String)
  deriving DecidableEq, Repr

/-- How an operand is called in a complaint. -/
def Operand.label : Operand → String
  | one label => label
  | command label => label

/-- What may stand on a command line, and the texts about it. -/
structure Form where
  /-- The program with the command, if the form is for one. -/
  program : String
  /-- The usage text. -/
  usage : String
  /-- The help text behind the usage text. -/
  details : String
  /-- The options in order. -/
  options : List OptionForm
  /-- What is expected besides options. -/
  operand : Option Operand
  deriving DecidableEq, Repr

namespace Form

/-- The names of all options in order, each with its option. -/
def named (form : Form) : List (String × OptionForm) :=
  form.options.flatMap fun option => option.names.map (·, option)

/-- The option of a name. -/
def find? (name : String) (form : Form) : Option OptionForm := form.named.lookup name

/-- The whole help text. -/
def help (form : Form) : String := form.usage ++ "\n\n" ++ form.details

end Form

/-- Why a command line does not fit its form. -/
inductive Complaint where
  /-- An abbreviated option may stand for several. -/
  | ambiguous (argument : String) (names : List String)
  /-- A value is attached to an option that takes none. -/
  | unusedValue (option value : String)
  /-- An option has no value. -/
  | missingValue (option : String)
  /-- A value is none of the listed words. -/
  | notAChoice (label value : String) (words : List String)
  /-- A value is no whole number. -/
  | notANumber (option value : String)
  /-- The operand is missing. -/
  | missingOperand (label : String)
  /-- Some arguments are not expected. -/
  | unrecognized (arguments : List String)
  deriving DecidableEq, Repr

/-- The wording of a complaint. -/
def Complaint.message : Complaint → String
  | ambiguous argument names =>
    "ambiguous option: " ++ argument ++ " could match " ++ Text.joinWith ", " names
  | unusedValue option value =>
    "argument " ++ option ++ ": ignored explicit argument " ++ Text.quoted value
  | missingValue option => "argument " ++ option ++ ": expected one argument"
  | notAChoice label value words =>
    "argument " ++ label ++ ": invalid choice: " ++ Text.quoted value ++ " (choose from " ++
      Text.joinWith ", " (words.map Text.quoted) ++ ")"
  | notANumber option value =>
    "argument " ++ option ++ ": invalid int value: " ++ Text.quoted value
  | missingOperand label => "the following arguments are required: " ++ label
  | unrecognized arguments => "unrecognized arguments: " ++ Text.joinWith " " arguments

/-- How reading a command line ends early. -/
inductive Ending where
  /-- Help is asked for. -/
  | help (form : Form)
  /-- The command line does not fit its form. -/
  | refused (form : Form) (complaint : Complaint)
  deriving DecidableEq, Repr

end Shellbox.CommandLine
