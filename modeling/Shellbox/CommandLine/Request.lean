import Shellbox.CommandLine.Reading
import Shellbox.CommandLine.Usage
import Shellbox.Sandbox.Limits
/-!
# What a command line asks for

A command line is read by the form of the program up to the name of a command, and from there on
by the form of the command. Arguments that neither expects are reported together, those in front
of the command first.
-/

namespace Shellbox.CommandLine

/-- What a command line asks for. -/
inductive Request where
  /-- To run command lines, which are separated by semicolons. -/
  | exec (commands : String)
  /-- To hold a conversation. -/
  | shell
  /-- To run the snippet in a file under limits. -/
  | run (file : String) (limits : Sandbox.Limits)
  deriving DecidableEq, Repr

/-- The limits that a reading asks for. -/
def Reading.limits (now : Reading) : Sandbox.Limits :=
  let usual : Sandbox.Limits := {}
  { usual with
    timeoutMs := (now.number? timeoutOption.label).getD usual.timeoutMs
    memoryMb := (now.number? memoryOption.label).getD usual.memoryMb }

namespace Request

/-- The form of a command, and what a reading by it asks for. -/
def ofName? : String → Option (Form × (Reading → Request))
  | "exec" => some (execForm, fun now => .exec ((now.operand.map (·.1)).getD ""))
  | "shell" => some (shellForm, fun _ => .shell)
  | "run" => some (runForm, fun now => .run ((now.operand.map (·.1)).getD "") now.limits)
  | _ => none

/-- Reads a command line. -/
def read (args : List String) : Except Ending Request := do
  let outer ← mainForm.read args
  let (name, behind) := outer.operand.getD ("", [])
  match ofName? name with
  | none => .error (.refused mainForm (.notAChoice "command_name" name commandNames))
  | some (form, request) =>
    let inner ← form.read behind
    match outer.extras ++ inner.extras with
    | [] => return request inner
    | extras => .error (.refused mainForm (.unrecognized extras))

end Request

end Shellbox.CommandLine
