import Shellbox.CommandLine.Form
import Shellbox.Text.Letter
/-!
# What the arguments of a command line are

Before a command line is read, each argument is told apart by a form: it is a word, the divider
`--`, a call of an option, or an option that the form does not know. Behind the divider there are
only words.

A long option may be abbreviated, and its value may be attached with an equals sign. Letters may
follow the letter of a short option. A negative number and an argument with a blank in it are
words unless they call an option.
-/

namespace Shellbox.CommandLine

/-- What is attached to an option in the same argument. -/
inductive Attached where
  /-- Nothing. -/
  | nothing
  /-- A text behind an equals sign. -/
  | value (text : String)
  /-- Characters directly behind the letter of a short option. -/
  | letters (run : List Char)
  deriving DecidableEq, Repr

/-- The attached text, if there is one. -/
def Attached.text? : Attached → Option String
  | nothing => none
  | value text => some text
  | letters run => some (String.ofList run)

/-- What an argument is. -/
inductive Role where
  /-- A word: an operand or the value of an option. -/
  | word
  /-- The divider. -/
  | divider
  /-- A call of an option. -/
  | call (option : OptionForm) (attached : Attached)
  /-- An option that the form does not know. -/
  | unknown
  deriving DecidableEq, Repr

/-- An argument with what it is. -/
structure Argument where
  text : String
  role : Role
  deriving DecidableEq, Repr

/-- Cuts a text at its first equals sign. -/
def cutAtSign (text : List Char) : List Char × Attached :=
  match text.dropWhile (· != '=') with
  | _ :: value => (text.takeWhile (· != '='), .value (String.ofList value))
  | [] => (text, .nothing)

/-- Whether a text is a negative number: a hyphen, digits, and perhaps a point with digits behind
it, with a line feed at the end left aside. -/
def isNegativeNumber (text : List Char) : Bool :=
  match text with
  | '-' :: size =>
    let size := if size.getLast? = some '\n' then size.dropLast else size
    match size.dropWhile (Text.isDecimal ·.toNat) with
    | [] => !size.isEmpty
    | '.' :: fraction => !fraction.isEmpty && fraction.all (Text.isDecimal ·.toNat)
    | _ => false
  | _ => false

/-- The options that an argument may be an abbreviation of, by name, with what is attached. -/
def Form.candidates (form : Form) (text : List Char) : List (String × OptionForm × Attached) :=
  match text with
  | '-' :: '-' :: _ =>
    let (start, attached) := cutAtSign text
    (form.named.filter fun (name, _) => start.isPrefixOf name.toList).map
      fun (name, option) => (name, option, attached)
  | '-' :: letter :: run =>
    (form.named.filter fun (name, _) => name.toList = ['-', letter]).map
      fun (name, option) => (name, option, .letters run)
  | _ => []

/-- What an argument is that calls no option by its full name. -/
def Form.guess (form : Form) (argument : String) : Except Complaint Role :=
  match form.candidates argument.toList with
  | [(_, option, attached)] => .ok (.call option attached)
  | [] =>
    if isNegativeNumber argument.toList || argument.toList.contains ' ' then .ok .word
    else .ok .unknown
  | several => .error (.ambiguous argument (several.map (·.1)))

/-- What an argument is if it is not the divider. -/
def Form.roleOf (form : Form) (argument : String) : Except Complaint Role :=
  match argument.toList with
  | '-' :: rest =>
    match form.find? argument with
    | some option => .ok (.call option .nothing)
    | none =>
      if rest.isEmpty then .ok .word
      else
        match cutAtSign argument.toList with
        | (_, .nothing) => form.guess argument
        | (name, attached) =>
          match form.find? (String.ofList name) with
          | some option => .ok (.call option attached)
          | none => form.guess argument
  | _ => .ok .word

/-- Tells the arguments apart, up to the first one that may be several options. -/
def Form.tellApart (form : Form) : List String → Except Complaint (List Argument)
  | [] => .ok []
  | "--" :: rest => .ok (⟨"--", .divider⟩ :: rest.map (⟨·, .word⟩))
  | argument :: rest => do
    let role ← form.roleOf argument
    return ⟨argument, role⟩ :: (← form.tellApart rest)

end Shellbox.CommandLine
