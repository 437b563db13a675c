import Shellbox.Json.Writer
import Shellbox.Sandbox.Scalar
import Shellbox.Text.Pieces
/-!
# Capturing what a snippet prints

What a snippet prints is kept as lines. A print call is accepted as a whole or not at all: it is
refused if the characters accepted before and its own are more than the limit, and after the first
refusal every other is refused too.

The text behind the last line feed is pending; finishing makes it a line if it is not empty, and
adds an error as a line of its own if that is accepted. What has been captured then is the reply of
the child.
-/

namespace Shellbox.Sandbox

/-- What has been captured so far: the complete lines, the text behind the last of them, the
number of characters accepted, and whether something was refused. -/
structure Capture where
  lines : List String := []
  pending : String := ""
  size : Nat := 0
  truncated : Bool := false
  deriving DecidableEq, Repr

namespace Capture

/-- Whether a text is accepted, and the capture afterwards. -/
def accept (limit : Int) (text : String) (capture : Capture) : Bool × Capture :=
  if capture.truncated then (false, capture)
  else if (capture.size + text.length : Nat) > limit then
    (false, { capture with truncated := true })
  else (true, { capture with size := capture.size + text.length })

/-- The text of a print call. A missing separator is a blank, a missing end a line feed. -/
def rendered (args : List Scalar) (separator ending : Scalar) : String :=
  Text.joinWith (match separator with | .none => " " | value => value.display)
      (args.map Scalar.display) ++
    match ending with | .none => "\n" | value => value.display

/-- Takes in the text of a print call. -/
def print (limit : Int) (text : String) (capture : Capture) : Capture :=
  match capture.accept limit text with
  | (false, capture) => capture
  | (true, capture) =>
    let pieces := (Text.pieces '\n' (capture.pending ++ text).toList).map String.ofList
    { capture with
      lines := capture.lines ++ pieces.dropLast
      pending := pieces.getLast?.getD "" }

/-- Makes the pending text a line if it is not empty. -/
def settle (capture : Capture) : Capture :=
  if capture.pending = "" then capture
  else { capture with lines := capture.lines ++ [capture.pending], pending := "" }

/-- Finishes the capture, with an error if there is one. -/
def finish (limit : Int) (error : Option String) (capture : Capture) : Capture :=
  let capture := capture.settle
  match error with
  | none => capture
  | some error =>
    match capture.accept limit error with
    | (false, capture) => capture
    | (true, capture) => { capture with lines := capture.lines ++ [error] }

/-- The reply with the lines captured. -/
def reply (capture : Capture) : Json :=
  .ofMembers
    [("output", .array (capture.lines.map .ofString)), ("truncated", .bool capture.truncated),
     ("error", .null)]

/-- The bytes that a child writes as its reply. -/
def replyBytes (capture : Capture) : ByteArray := capture.reply.toPlain.toUTF8

end Capture

/-- A call of print: what is printed, the separator and the end. A value of any other kind is the
text that it is printed as. -/
structure PrintCall where
  args : List Scalar
  separator : Scalar := .none
  ending : Scalar := .none
  deriving DecidableEq, Repr

/-- The text of a print call. -/
def PrintCall.text (call : PrintCall) : String :=
  Capture.rendered call.args call.separator call.ending

/-- What is captured of print calls, finished with an error if there is one. -/
def Capture.ofCalls (limit : Int) (calls : List PrintCall) (error : Option String) : Capture :=
  let capture : Capture := calls.foldl (fun capture call => capture.print limit call.text) {}
  capture.finish limit error

end Shellbox.Sandbox
