import Shellbox.CommandLine.Argument
import Shellbox.Keyed
import Shellbox.Text.Numeral
/-!
# Reading a command line by a form

The arguments are read from left to right. An option takes its value from the same argument or
from the next one, which has to be a word. The first word that no option takes is the operand; if
the operand is a command, everything behind it belongs to it. What is left over is kept, since
only the program knows what to say about it.
-/

namespace Shellbox.CommandLine

/-- The value of an option. -/
inductive Setting where
  | word (value : String)
  | number (value : Int)
  deriving DecidableEq, Repr

/-- What has been read: the values of options by their labels, the operand with what belongs to
it, and the arguments that are left over. -/
structure Reading where
  settings : List (String × Setting) := []
  operand : Option (String × List String) := none
  extras : List String := []
  deriving DecidableEq, Repr

namespace Reading

/-- Puts an argument behind those left over. -/
def leave (text : String) (now : Reading) : Reading :=
  { now with extras := now.extras ++ [text] }

/-- Sets an option to the value that a text stands for. -/
def set (option : OptionForm) (text : String) (now : Reading) : Except Complaint Reading :=
  match option.takes with
  | .help => .error (.unusedValue option.label text)
  | .choice words =>
    if words.contains text then
      .ok { now with settings := Keyed.put option.label (.word text) now.settings }
    else .error (.notAChoice option.label text words)
  | .number =>
    match Text.integer? text.toList with
    | some value =>
      .ok { now with settings := Keyed.put option.label (.number value) now.settings }
    | none => .error (.notANumber option.label text)

/-- The whole number that an option is set to. -/
def number? (label : String) (now : Reading) : Option Int :=
  match now.settings.lookup label with
  | some (.number value) => some value
  | _ => none

end Reading

namespace Form

/-- The part of the characters behind a short option that it cannot do without, if there is
one: a hyphen with all behind it, or what an equals sign attaches. Further short options may
come before it, and behind an unknown letter nothing counts. -/
def unusedRun? (form : Form) : List Char → Option (List Char)
  | [] => none
  | letter :: run =>
    if letter = '-' then some (letter :: run)
    else if (form.find? (String.ofList ['-', letter])).isNone then none
    else
      match run with
      | '=' :: value => some value
      | run => unusedRun? form run

/-- How reading ends at an option that asks for help. -/
def helpEnding (form : Form) (option : OptionForm) : Attached → Ending
  | .nothing => .help form
  | .value text => .refused form (.unusedValue option.label text)
  | .letters run =>
    match form.unusedRun? run with
    | none => .help form
    | some text => .refused form (.unusedValue option.label (String.ofList text))

/-- Sets an option to the value that a text stands for, as a step of reading. -/
def settle (form : Form) (option : OptionForm) (text : String) (now : Reading) :
    Except Ending Reading :=
  (now.set option text).mapError (.refused form)

/-- Reads arguments on top of what has been read. -/
def readOn (form : Form) : List Argument → Reading → Except Ending Reading
  | [], now => .ok now
  | ⟨text, .unknown⟩ :: rest, now => form.readOn rest (now.leave text)
  | ⟨_, .call option attached⟩ :: rest, now =>
    if option.takes = .help then .error (form.helpEnding option attached)
    else
      match attached.text?, rest with
      | some text, rest => do form.readOn rest (← form.settle option text now)
      | none, ⟨text, .word⟩ :: rest => do form.readOn rest (← form.settle option text now)
      | none, _ => .error (.refused form (.missingValue option.label))
  | ⟨text, .word⟩ :: rest, now =>
    match form.operand, now.operand with
    | some (.one _), none =>
      match rest with
      | ⟨_, .divider⟩ :: rest => form.readOn rest { now with operand := some (text, []) }
      | rest => form.readOn rest { now with operand := some (text, []) }
    | some (.command _), none => .ok { now with operand := some (text, rest.map (·.text)) }
    | _, _ => form.readOn rest (now.leave text)
  | ⟨text, .divider⟩ :: rest, now =>
    match form.operand, now.operand, rest with
    | some (.one _), none, ⟨word, _⟩ :: rest =>
      form.readOn rest { now with operand := some (word, []) }
    | some (.command _), none, _ :: _ =>
      .ok { now with operand := some (text, rest.map (·.text)) }
    | _, _, rest => form.readOn rest (now.leave text)

/-- Reads a command line. -/
def read (form : Form) (args : List String) : Except Ending Reading := do
  match form.tellApart args with
  | .error complaint => .error (.refused form complaint)
  | .ok args =>
    let now ← form.readOn args {}
    match form.operand, now.operand with
    | some operand, none => .error (.refused form (.missingOperand operand.label))
    | _, _ => return now

end Form

end Shellbox.CommandLine
