import Shellbox.Pattern.Syntax
/-!
# Searching for a pattern

A pattern is tried at a place of a text with everything that is to follow it as a continuation:
where a choice leads to a dead end, the next choice is tried. `Pattern.run` goes down the pattern;
a repetition hands its body to a loop that is bounded by the text, because an iteration that
takes nothing is not repeated at the same place.

The start and the end of what a group has taken are kept apart. A group counts as having taken a
text when both are there and the end is not before the start.
-/

namespace Shellbox.Pattern

/-- How far a match has come: the place in the text and the starts and ends of groups, the latest
of each group first. -/
structure Progress where
  place : Nat
  marks : List (Nat × Nat)
  deriving DecidableEq, Repr

namespace Progress

/-- Notes the place as the start (`side = 0`) or the end (`side = 1`) of a group. -/
def mark (number side : Nat) (now : Progress) : Progress :=
  { now with marks := (2 * number + side, now.place) :: now.marks }

/-- The start and the end of what a group has taken. -/
def group? (number : Nat) (now : Progress) : Option (Nat × Nat) := do
  let start ← now.marks.lookup (2 * number)
  let finish ← now.marks.lookup (2 * number + 1)
  if start ≤ finish then some (start, finish) else none

end Progress

/-- What is to follow a pattern: the rest of the match from a point reached. -/
abbrev Continuation := Progress → Option Progress

/-- A pattern as the loop of a repetition sees it. -/
abbrev Trial := Continuation → Continuation

/-- Tries a body again and again, the longest run first, or the shortest first if `lazy` holds.
`last` is the place where the latest iteration beyond the least number started. -/
def iterate (body : Trial) (lazy : Bool) (least : Nat) (most : Option Nat)
    (follow : Continuation) : Nat → Nat → Option Nat → Continuation
  | 0, _, _, _ => none
  | fuel + 1, count, last, now =>
    if count < least then
      body (iterate body lazy least most follow fuel (count + 1) last) now
    else
      let more := fun (_ : Unit) =>
        if most.all (count < ·) && last != some now.place then
          body (iterate body lazy least most follow fuel (count + 1) (some now.place)) now
        else none
      if lazy then
        match follow now with
        | some found => some found
        | none => more ()
      else
        match more () with
        | some found => some found
        | none => follow now

/-- Repeats a body as often as it matches, without trying another way to match it later. -/
def exhaust (body : Trial) (least : Nat) (most : Option Nat) :
    Nat → Nat → Option Nat → Continuation
  | 0, _, _, _ => none
  | fuel + 1, count, last, now =>
    if count < least then
      match body some now with
      | some next => exhaust body least most fuel (count + 1) last next
      | none => none
    else if most.all (count < ·) && last != some now.place then
      match body some now with
      | some next => exhaust body least most fuel (count + 1) (some now.place) next
      | none => some now
    else some now

/-- Whether a character of a text, given by its place, belongs to a word. -/
def isWordAt (ascii : Bool) (text : Array Char) (place : Nat) : Bool :=
  match text[place]? with
  | some c => Shorthand.word.has ascii c.toNat
  | none => false

/-- Whether a condition holds at a place of a text. -/
def Anchor.holds (text : Array Char) (place : Nat) : Anchor → Bool
  | start => place == 0
  | finish => place == text.size
  | lineStart eachLine => place == 0 || (eachLine && text[place - 1]? == some '\n')
  | lineEnd eachLine =>
    place == text.size ||
      (text[place]? == some '\n' && (eachLine || place + 1 == text.size))
  | boundary ascii negated =>
    let before := place != 0 && isWordAt ascii text (place - 1)
    !text.isEmpty && negated != (before != isWordAt ascii text place)

/-- Whether two runs of a text of the same length agree, letter case counting as `fold` says. -/
def agreesRun (fold : Fold) (text : Array Char) (a b : Nat) : Nat → Bool
  | 0 => true
  | length + 1 =>
    match text[a]?, text[b]? with
    | some c, some d =>
      fold.lower c.toNat == fold.lower d.toNat && agreesRun fold text (a + 1) (b + 1) length
    | _, _ => false

/-- Tries a pattern at a point of a text, with what is to follow it. -/
def run (text : Array Char) : Pattern → Trial
  | empty, follow, now => follow now
  | one test, follow, now =>
    match text[now.place]? with
    | some c => if test.accepts c.toNat then follow { now with place := now.place + 1 } else none
    | none => none
  | anchor condition, follow, now =>
    if condition.holds text now.place then follow now else none
  | seq first second, follow, now => first.run text (second.run text follow) now
  | alt first second, follow, now =>
    match first.run text follow now with
    | some found => some found
    | none => second.run text follow now
  | group none body, follow, now => body.run text follow now
  | group (some number) body, follow, now =>
    body.run text (fun next => follow (next.mark number 1)) (now.mark number 0)
  | atomic body, follow, now => (body.run text some now).bind follow
  | backref fold number _ _, follow, now =>
    match now.group? number with
    | none => none
    | some (start, finish) =>
      if agreesRun fold text start now.place (finish - start) then
        follow { now with place := now.place + (finish - start) }
      else none
  | rep greed least most body, follow, now =>
    let fuel := least + 2 * (text.size - now.place) + 4
    match greed with
    | .possessive => (exhaust (body.run text) least most fuel 0 none now).bind follow
    | _ => iterate (body.run text) (greed == .lazy) least most follow fuel 0 none now
  | ahead negated body, follow, now =>
    match body.run text some now with
    | some next => if negated then none else follow { next with place := now.place }
    | none => if negated then follow now else none
  | behind negated body, follow, now =>
    let width := body.width.1
    let found :=
      if width ≤ now.place then body.run text some { now with place := now.place - width }
      else none
    match found with
    | some next => if negated then none else follow { next with place := now.place }
    | none => if negated then follow now else none
  | ifGroup number body otherwise, follow, now =>
    if (now.group? number).isSome then body.run text follow now
    else otherwise.run text follow now

/-- Whether a pattern matches somewhere in a text. -/
def occurs (pattern : Pattern) (text : List Char) : Bool :=
  let chars := text.toArray
  (List.range (chars.size + 1)).any fun start =>
    (pattern.run chars some ⟨start, []⟩).isSome

end Shellbox.Pattern
