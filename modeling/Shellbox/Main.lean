import Shellbox.CommandLine.Outcome
/-!
# The program

Carries out what a command line asks for. No interpreter for snippets comes with the program, so
running one ends with the error that the child cannot be started.
-/

namespace Shellbox

open CommandLine

/-- Code points as a string. Halves of surrogate pairs become replacement characters. -/
def shownCodes (codes : Codes) : String :=
  String.ofList (codes.map fun n => if n.isValidChar then Char.ofNat n else Char.ofNat 0xFFFD)

/-- Writes out what a call comes to. -/
def writeOutcome (outcome : Outcome) : IO UInt32 := do
  IO.print (shownCodes outcome.stdout)
  IO.eprint (shownCodes outcome.errors)
  return outcome.code.toUInt32

/-- The whole text that is left on a stream. -/
partial def readToEnd (stream : IO.FS.Stream) (text : String) : IO String := do
  let line ← stream.getLine
  if line.isEmpty then return text else readToEnd stream (text ++ line)

/-- Holds a conversation on the standard streams. The end of the input ends it. -/
partial def holdConversation (now : Nat) (session : Shell.Session) : IO Unit := do
  IO.print (askingPrompt session)
  (← IO.getStdout).flush
  let line ← (← IO.getStdin).getLine
  if line.isEmpty then return
  match respond now (Shell.trimmedLine line) session with
  | none => return
  | some (lines, next) =>
    IO.print (unlines lines)
    holdConversation (now + 1) next

/-- Carries out a call of the program. -/
def carryOut (args : List String) : IO UInt32 := do
  match Request.read args with
  | .ok .shell =>
    holdConversation 1 Shell.Session.default
    return 0
  | .ok (.run file limits) =>
    let source ← if file = "-" then readToEnd (← IO.getStdin) "" else IO.FS.readFile file
    let child : Sandbox.Child := { startError := some "no interpreter is available" }
    match runOutcome source limits child with
    | .ok outcome => writeOutcome outcome
    | .error fault => throw (IO.userError fault.message)
  | _ =>
    match answer args {} with
    | .ok outcome => writeOutcome outcome
    | .error fault => throw (IO.userError fault.message)

end Shellbox

/-- Carries out a call of the program. -/
def main (args : List String) : IO UInt32 := Shellbox.carryOut args
