import Shellbox.Sandbox.Scalar
import Shellbox.Text.Pieces
/-!
# Describing an exception of a snippet

An exception is described by its message, or by the name of its type if the message is empty. The
message of one argument is that argument, of several the tuple of them; some families of types
have messages of their own.
-/

namespace Shellbox.Sandbox

/-- An exception: the name of its type and its arguments. -/
structure Raised where
  typeName : String
  args : List Scalar
  deriving DecidableEq, Repr

namespace Raised

/-- Arguments as a tuple. -/
def tuple : List Scalar → String
  | [] => "()"
  | [arg] => "(" ++ arg.inner ++ ",)"
  | args => "(" ++ Text.joinWith ", " (args.map Scalar.inner) ++ ")"

/-- The message that most types have. -/
def plainMessage : List Scalar → String
  | [] => ""
  | [arg] => arg.display
  | args => tuple args

/-- The types for failures of the operating system under their general name. -/
def generalSystemTypes : List String := ["OSError", "IOError", "EnvironmentError"]

/-- The types for particular failures of the operating system. -/
def particularSystemTypes : List String :=
  ["BlockingIOError", "BrokenPipeError", "ChildProcessError", "ConnectionAbortedError",
   "ConnectionError", "ConnectionRefusedError", "ConnectionResetError", "FileExistsError",
   "FileNotFoundError", "InterruptedError", "IsADirectoryError", "NotADirectoryError",
   "PermissionError", "ProcessLookupError", "TimeoutError"]

/-- The types for source text that cannot be compiled. -/
def compileTypes : List String := ["SyntaxError", "IndentationError", "TabError"]

/-- Whether an exception is of the type for operations that would block, by its name or by its
error number. -/
def wouldBlock (typeName : String) (errorNumber : Scalar) : Bool :=
  typeName = "BlockingIOError" ||
    (generalSystemTypes.contains typeName && [.int 11, .int 114, .int 115].contains errorNumber)

/-- Whether a value is a number, truth values included. -/
def isNumber : Scalar → Bool
  | .int _ | .bool _ => true
  | _ => false

/-- The message of a failure of the operating system with an error number and a text: the file
names concerned follow, and a number in the place of the first one is a count if the operation
would block. -/
def systemMessage (typeName : String) (errorNumber words : Scalar) (files : List Scalar) :
    String :=
  let front := "[Errno " ++ errorNumber.display ++ "] " ++ words.display
  match files with
  | [] | .none :: _ => front
  | file :: others =>
    if wouldBlock typeName errorNumber && isNumber file then front
    else
      match others with
      | [_, .none] => front ++ ": " ++ file.inner
      | [_, other] => front ++ ": " ++ file.inner ++ " -> " ++ other.inner
      | _ => front ++ ": " ++ file.inner

/-- A value as a whole number, if it is a number. -/
def whole? : Scalar → Option Int
  | .int value => some value
  | .bool value => some (if value then 1 else 0)
  | _ => none

/-- The message about the characters of a text from `start` to before `finish`: a single one is
shown, of several only the positions. There is none about a single one in front of the text. -/
def characterMessage (front text : String) (start finish : Int) (reason : String) : String :=
  if start < text.length ∧ finish = start + 1 then
    match start with
    | .ofNat i =>
      let shown := ((text.toList[i]?).map fun c => Text.numberedCode c.toNat).getD []
      front ++ " character '" ++ String.ofList shown ++ "' in position " ++ toString start ++
        ": " ++ reason
    | .negSucc _ => ""
  else
    front ++ " characters in position " ++ toString start ++ "-" ++ toString (finish - 1) ++ ": " ++
      reason

/-- The message about characters that cannot be encoded or translated, if it is an exception
about such. -/
def textMessage? (raised : Raised) : Option String :=
  match raised.typeName, raised.args with
  | "UnicodeEncodeError", [.text encoding, .text text, start, finish, .text reason] => do
    let front := "'" ++ encoding ++ "' codec can't encode"
    return characterMessage front text (← whole? start) (← whole? finish) reason
  | "UnicodeTranslateError", [.text text, start, finish, .text reason] => do
    return characterMessage "can't translate" text (← whole? start) (← whole? finish) reason
  | _, _ => none

/-- The message of an exception. -/
def message (raised : Raised) : String :=
  if raised.typeName = "KeyError" then
    match raised.args with
    | [arg] => arg.inner
    | args => plainMessage args
  else if compileTypes.contains raised.typeName then
    match raised.args with
    | [] => Scalar.none.display
    | words :: _ => words.display
  else if (generalSystemTypes ++ particularSystemTypes).contains raised.typeName then
    match raised.args with
    | errorNumber :: words :: files =>
      if files.length ≤ 3 then systemMessage raised.typeName errorNumber words files
      else tuple raised.args
    | args => plainMessage args
  else (textMessage? raised).getD (plainMessage raised.args)

/-- The name under which a type shows itself. -/
def shownType (typeName : String) : String :=
  if generalSystemTypes.contains typeName then "OSError" else typeName

/-- The description of an exception: its message, or the name of its type if that is empty. -/
def describe (raised : Raised) : String :=
  if raised.message = "" then shownType raised.typeName else raised.message

example : describe ⟨"KeyError", [.text "it's"]⟩ = "\"it's\"" := by decide +kernel

end Raised

end Shellbox.Sandbox
