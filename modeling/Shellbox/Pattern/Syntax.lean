import Shellbox.Pattern.CharTest
/-!
# The syntax of patterns

A pattern as a tree. The flags in force at a place of the pattern text are part of the tree
(`Fold`, the fields of `Anchor` and of `CharTest`), so that a pattern means the same wherever it
stands.

`Pattern.width` gives the least and the greatest number of characters that a pattern takes; a
look behind needs the two to be the same.
-/

namespace Shellbox

namespace Pattern

/-- A condition on a place between two characters. -/
inductive Anchor where
  /-- The start of the text. -/
  | start
  /-- The end of the text. -/
  | finish
  /-- The start of a line, or of the text only. -/
  | lineStart (eachLine : Bool)
  /-- The end of a line; without `eachLine`, the end of the text or before a last line feed. -/
  | lineEnd (eachLine : Bool)
  /-- Between a word character and none, or not so. -/
  | boundary (ascii negated : Bool)
  deriving DecidableEq, Repr

/-- In which order a repetition tries its lengths. -/
inductive Greed where
  /-- The longest first. -/
  | greedy
  /-- The shortest first. -/
  | lazy
  /-- The longest only. -/
  | possessive
  deriving DecidableEq, Repr

end Pattern

open Pattern in
/-- A pattern. -/
inductive Pattern where
  /-- Takes nothing. -/
  | empty
  /-- Takes one character that passes a test. -/
  | one (test : CharTest)
  /-- Takes nothing where a condition holds. -/
  | anchor (condition : Anchor)
  /-- One pattern after the other. -/
  | seq (first second : Pattern)
  /-- The first pattern or else the second. -/
  | alt (first second : Pattern)
  /-- A pattern in parentheses. Its text is kept under the number, if there is one. -/
  | group (number : Option Nat) (body : Pattern)
  /-- A pattern that is not tried again once it has matched. -/
  | atomic (body : Pattern)
  /-- The text that a group has taken, of the given width. -/
  | backref (fold : Fold) (number least greatest : Nat)
  /-- A pattern several times, at most `most` times if that is given. -/
  | rep (greed : Greed) (least : Nat) (most : Option Nat) (body : Pattern)
  /-- A pattern that would match from here on, or would not. -/
  | ahead (negated : Bool) (body : Pattern)
  /-- A pattern that matches, or does not, in the characters right before. -/
  | behind (negated : Bool) (body : Pattern)
  /-- One of two patterns, depending on whether a group has taken a text. -/
  | ifGroup (number : Nat) (body otherwise : Pattern)
  deriving DecidableEq, Repr

namespace Pattern

/-- Widths above this are not told apart. -/
def maxWidth : Nat := Nat.pow 2 64

/-- The least and the greatest number of characters that a pattern takes. -/
def width : Pattern → Nat × Nat
  | empty => (0, 0)
  | one _ => (1, 1)
  | anchor _ => (0, 0)
  | seq first second =>
    (min (first.width.1 + second.width.1) maxWidth, min (first.width.2 + second.width.2) maxWidth)
  | alt first second =>
    (min first.width.1 second.width.1, max first.width.2 second.width.2)
  | group _ body => body.width
  | atomic body => body.width
  | backref _ _ least greatest => (least, greatest)
  | rep _ least most body =>
    (min (body.width.1 * least) maxWidth,
      match most with
      | some n => min (body.width.2 * n) maxWidth
      | none => if body.width.2 == 0 then 0 else maxWidth)
  | ahead .. => (0, 0)
  | behind .. => (0, 0)
  | ifGroup _ body otherwise =>
    (min body.width.1 otherwise.width.1, max body.width.2 otherwise.width.2)

/-- One pattern after the other for a whole list. -/
def ofList : List Pattern → Pattern
  | [] => empty
  | [only] => only
  | first :: rest => seq first (ofList rest)

/-- The patterns that follow one another in a pattern made by `ofList`. -/
def items : Pattern → List Pattern
  | empty => []
  | seq first second => first :: second.items
  | only => [only]

/-- What a pattern in a sequence stands for: parentheses that keep no text are dropped. -/
def unpacked : Pattern → List Pattern
  | group none body => body.items
  | item => [item]

/-- Whether a pattern holds no other pattern. -/
def isPlain : Pattern → Bool
  | one _ | anchor _ | backref .. => true
  | _ => false

/-- Splits off the plain patterns with which all of several sequences start. -/
def sharedFront : List Pattern → List (List Pattern) → List Pattern × List (List Pattern)
  | [], others => ([], [] :: others)
  | first :: rest, others =>
    if first.isPlain && others.all (·.head? == some first) then
      let (front, branches) := sharedFront rest (others.map List.tail)
      (first :: front, branches)
    else ([], (first :: rest) :: others)

/-- The members of the set that a sequence is, if it is one pattern for a character and not
negated. -/
def setItems? : List Pattern → Option (Fold × List SetItem)
  | [one (.code fold false n)] => some (fold, [.code n])
  | [one (.oneOf fold false items)] => some (fold, items)
  | _ => none

/-- The first of several sequences that matches. -/
def alternatives : List Pattern → List (List Pattern) → Pattern
  | first, [] => ofList first
  | first, second :: rest => alt (ofList first) (alternatives second rest)

/-- The alternative of several sequences. What all of them start with comes first, and what is
left of them is one set if each is a pattern for one character. -/
def choice : List (List Pattern) → Pattern
  | [] => empty
  | [only] => ofList only
  | first :: second :: rest =>
    match sharedFront first (second :: rest) with
    | (front, []) => ofList front
    | (front, first :: others) =>
      let last :=
        match (first :: others).mapM setItems? with
        | some ((fold, items) :: sets) =>
          one (.oneOf fold false ((items ++ sets.flatMap Prod.snd).eraseDups))
        | _ => alternatives first others
      ofList (front ++ [last])

end Pattern

end Shellbox
