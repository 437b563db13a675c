import Shellbox.Text.Blank
import Shellbox.Text.Case
import Shellbox.Text.Letter
/-!
# Tests on one character

The parts of a pattern that take exactly one character: any character, a given one, or one of a
set. A test says how letter case counts: exactly, or folded among the ASCII letters only, or
folded over all of Unicode.

Folding compares lower-case forms and takes lower-case letters with a common upper-case form for
the same (`s` and `ſ`). A set folds only if a member has case. Above U+FFFF the single members of
a set are compared with the lower-case form of the character, and a range admits a character if
that form or its upper-case form lies in it.
-/

namespace Shellbox.Pattern

/-- How letter case counts in a comparison. -/
inductive Fold where
  /-- Letters differ from their other case. -/
  | exact
  /-- ASCII letters agree with their other case. -/
  | ascii
  /-- All letters agree with their other case. -/
  | unicode
  deriving DecidableEq, Repr

/-- A class of characters with a name of its own. -/
inductive Shorthand where
  | digit
  | blank
  | word
  deriving DecidableEq, Repr

/-- One member of a set of characters. -/
inductive SetItem where
  /-- A single code point. -/
  | code (n : Nat)
  /-- All code points from `first` to `last`. -/
  | span (first last : Nat)
  /-- The characters of a class, or all others; within ASCII if `ascii` holds. -/
  | shorthand (class_ : Shorthand) (ascii negated : Bool)
  deriving DecidableEq, Repr

/-- A test that one character passes or fails. -/
inductive CharTest where
  /-- Any character, the line feed only if `lineFeed` holds. -/
  | any (lineFeed : Bool)
  /-- The character of a code point, or any other one. -/
  | code (fold : Fold) (negated : Bool) (n : Nat)
  /-- A character of a set, or one outside it. -/
  | oneOf (fold : Fold) (negated : Bool) (items : List SetItem)
  deriving DecidableEq, Repr

namespace Fold

/-- The lower-case form under a way of folding. -/
def lower : Fold → Nat → Nat
  | exact, n => n
  | ascii, n => if 65 ≤ n && n ≤ 90 then n + 32 else n
  | unicode, n => Text.lowerCode n

/-- The code points with a lower-case form under a way of folding. -/
def loweringTo : Fold → Nat → List Nat
  | exact, n => [n]
  | ascii, n =>
    if 97 ≤ n && n ≤ 122 then [n, n - 32] else if 65 ≤ n && n ≤ 90 then [] else [n]
  | unicode, n => Text.loweringTo n

/-- The other lower-case code points that count as the same letter. -/
def siblings : Fold → Nat → List Nat
  | unicode, n => Text.caseSiblings n
  | _, _ => []

/-- Whether some code point of a range has case. -/
def someHasCase : Fold → Nat → Nat → Bool
  | exact, _, _ => false
  | ascii, lo, hi => (lo ≤ 90 && 65 ≤ hi) || (lo ≤ 122 && 97 ≤ hi)
  | unicode, lo, hi => Text.someHasCase lo hi

/-- Whether a code point has case. -/
def hasCase : Fold → Nat → Bool
  | exact, _ => false
  | ascii, n => (65 ≤ n && n ≤ 90) || (97 ≤ n && n ≤ 122)
  | unicode, n => Text.hasCase n

/-- Whether a character agrees with the code point `n` of a pattern. -/
def agrees (fold : Fold) (n c : Nat) : Bool :=
  if fold.hasCase n then
    let low := fold.lower n
    fold.lower c == low || (fold.siblings low).contains (fold.lower c)
  else c == n

end Fold

/-- Whether a code point belongs to a class with a name. -/
def Shorthand.has (ascii : Bool) : Shorthand → Nat → Bool
  | digit, n => if ascii then 48 ≤ n && n ≤ 57 else Text.isDecimal n
  | blank, n => if ascii then (9 ≤ n && n ≤ 13) || n == 32 else Text.isBlankCode n
  | word, n => (!ascii || n < 128) && Text.isWordPart n

/-- The greatest code point for which a set looks at the lower-case forms of its members. -/
def foldedLimit : Nat := 0xFFFF

namespace SetItem

/-- Whether a code point is a member, letter case counting. -/
def has : SetItem → Nat → Bool
  | code n, c => c == n
  | span first last, c => first ≤ c && c ≤ last
  | shorthand class_ ascii negated, c => negated != class_.has ascii c

/-- Whether a set with this member folds letter case. -/
def folds (fold : Fold) : SetItem → Bool
  | code n => n > foldedLimit || fold.hasCase n
  | span first last => last > foldedLimit || fold.someHasCase first last
  | shorthand .. => false

/-- Whether the lower-case form of a character agrees with a member. -/
def hasFolded (fold : Fold) : SetItem → Nat → Bool
  | code n, low =>
    if n > foldedLimit then low == n
    else low == fold.lower n || (fold.siblings (fold.lower n)).contains low
  | span first last, low =>
    (low :: fold.siblings low).any (fun l =>
        (fold.loweringTo l).any fun n => first ≤ n && n ≤ min last foldedLimit) ||
      (last > foldedLimit &&
        ((first ≤ low && low ≤ last) ||
          (first ≤ Text.upperCode low && Text.upperCode low ≤ last)))
  | item, low => item.has low

end SetItem

/-- Whether a character, given by its code point, passes a test. -/
def CharTest.accepts : CharTest → Nat → Bool
  | any lineFeed, c => lineFeed || c != 10
  | code fold negated n, c => negated != fold.agrees n c
  | oneOf fold negated items, c =>
    if fold != .exact && items.any (·.folds fold) then
      negated != items.any (·.hasFolded fold (fold.lower c))
    else negated != items.any (·.has c)

end Shellbox.Pattern
