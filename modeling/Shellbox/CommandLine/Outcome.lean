import Shellbox.CommandLine.Request
import Shellbox.Sandbox.Child
import Shellbox.Shell.Dispatch
/-!
# What a call of the program comes to

A call ends with an exit status and leaves text on the two output streams. `answer` gives the
outcome of a whole call when everything that it would be told is known in advance: the lines of a
conversation, the text of a snippet and what its child does.

A conversation is a list of turns. Prompts go to the standard output as well, each in front of what
is written after the line that it asks for.
-/

namespace Shellbox.CommandLine

open Shell (Session)

/-- What a call comes to. -/
structure Outcome where
  /-- The exit status. -/
  code : Nat := 0
  /-- What is written to the standard output, apart from prompts. -/
  output : Codes := []
  /-- What is written to the standard error stream. -/
  errors : Codes := []
  /-- The prompts under which lines were asked for. -/
  prompts : List String := []
  /-- All that is written to the standard output, each prompt in its place. -/
  stdout : Codes := output
  /-- What was sent to the child of the sandbox. -/
  request : String := ""
  deriving DecidableEq, Repr

/-- The outcome of a command line that asks for nothing else than help, or that does not fit. -/
def Ending.outcome : Ending → Outcome
  | help form => { output := Codes.ofString form.help }
  | refused form complaint =>
    { code := 2
      errors := Codes.ofString
        (unlines [form.usage, form.program ++ ": error: " ++ complaint.message]) }

/-- What running a command line writes: the lines behind the one that repeats it. -/
def reply (now : Nat) (line : String) (session : Session) : List String × Session :=
  let (lines, session) := session.run now line
  (lines.drop 1, session)

/-- Runs command lines one after the other, the first one at the given time. -/
def replies (now : Nat) : List String → Session → List String
  | [], _ => []
  | line :: rest, session =>
    let (lines, session) := reply now line session
    lines ++ replies (now + 1) rest session

/-- The command lines in a text, without blanks around them. -/
def commandLines (commands : String) : List String :=
  (Text.pieces ';' commands.toList).map fun piece => String.ofList (Text.strip piece)

/-- Whether a line ends a conversation. -/
def isFarewell (line : String) : Bool :=
  [":q", "exit", "quit"].contains (String.ofList (Text.strip line.toList))

/-- The text under which a line is asked for. -/
def askingPrompt (session : Session) : String := session.prompt ++ " $ "

/-- One turn of a conversation: the prompt under which a line is asked for, and the lines that are
written once it is given. -/
structure Turn where
  prompt : String
  lines : List String
  deriving DecidableEq, Repr

/-- What a turn leaves on the standard output. -/
def Turn.shown (turn : Turn) : Codes := Codes.ofString (turn.prompt ++ unlines turn.lines)

/-- What a line that was asked for leads to: the lines that are written and the session that asks
for the next one, or nothing if the conversation is over. -/
def respond (now : Nat) (line : String) (session : Session) : Option (List String × Session) :=
  if isFarewell line then none else some (reply now line session)

/-- Holds a conversation of which the lines are known in advance. In the last turn nothing is
written. -/
def converse (now : Nat) : List String → Session → List Turn
  | [], session => [⟨askingPrompt session, []⟩]
  | line :: rest, session =>
    match respond now line session with
    | none => [⟨askingPrompt session, []⟩]
    | some (lines, next) => ⟨askingPrompt session, lines⟩ :: converse (now + 1) rest next

/-- What running the command lines in a text comes to, from a session on. -/
def execOutcome (commands : String) (session : Session) : Outcome :=
  { output := Codes.ofString (unlines (replies 1 (commandLines commands) session)) }

/-- What a conversation comes to, from a session on. -/
def shellOutcome (input : List String) (session : Session) : Outcome :=
  let turns := converse 1 input session
  { output := Codes.ofString (unlines (turns.flatMap Turn.lines))
    prompts := turns.map Turn.prompt
    stdout := turns.flatMap Turn.shown }

/-- A text with a line feed behind it, or nothing for an empty text. -/
def asLine (text : Codes) : Codes := if text.isEmpty then [] else text ++ [10]

/-- What running a snippet in a child comes to. -/
def runOutcome (source : String) (limits : Sandbox.Limits) (child : Sandbox.Child)
    (spare : Nat := Sandbox.usualSpare) : Except Sandbox.Fault Outcome := do
  let run ← Sandbox.execute source limits child spare
  let errors := asLine (run.result.error.getD [])
  return {
    code := if errors.isEmpty then 0 else 1
    output := asLine run.result.output
    errors
    request := run.request }

/-- What a call is told besides its arguments. -/
structure Surroundings where
  /-- The lines of a conversation. -/
  input : List String := []
  /-- The text of the snippet. -/
  source : String := ""
  /-- The child that runs the snippet. -/
  child : Sandbox.Child := {}
  /-- How many levels deeper than an array in an object the reply of the child may be nested. -/
  spare : Nat := Sandbox.usualSpare

/-- What a call with these arguments comes to. -/
def answer (args : List String) (told : Surroundings) : Except Sandbox.Fault Outcome :=
  match Request.read args with
  | .error ending => .ok ending.outcome
  | .ok (.exec commands) => .ok (execOutcome commands Session.default)
  | .ok .shell => .ok (shellOutcome told.input Session.default)
  | .ok (.run _ limits) => runOutcome told.source limits told.child told.spare

end Shellbox.CommandLine
