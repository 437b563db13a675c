import Shellbox.Text.Quoted
/-!
# Why a pattern text is refused

Each constructor of `Cause` is one cause, and `Cause.message` its wording. A refusal also tells
the place in the pattern text, counted in characters, where there is one. Three of the causes are
limits of the reader and no faults of the pattern (`Cause.isLimit`).
-/

namespace Shellbox.Pattern

/-- The causes for which a pattern text is refused. -/
inductive Cause where
  /-- The text ends in a backslash. -/
  | danglingEscape
  /-- The escape means nothing. -/
  | badEscape (escape : String)
  /-- The escape lacks digits. -/
  | incompleteEscape (escape : String)
  /-- The octal escape is above the last code point of eight bits. -/
  | octalTooLarge (escape : String)
  /-- A character name does not start with a brace. -/
  | missingBrace
  /-- A name is empty. -/
  | missingName (what : String)
  /-- A name does not end. -/
  | unterminatedName (terminator : Char)
  /-- No character has the name. -/
  | unknownCharacter (name : String)
  /-- A set of characters does not end. -/
  | unterminatedSet
  /-- A range of a set is empty or its ends are no characters. -/
  | badRange (first last : String)
  /-- The bounds of a repetition are the wrong way round. -/
  | boundsReversed
  /-- A repetition has nothing in front of it. -/
  | nothingToRepeat
  /-- A repetition stands right behind another. -/
  | multipleRepeat
  /-- The text ends behind an opening parenthesis and a question mark. -/
  | unexpectedEnd
  /-- The name of a group is no identifier. -/
  | badGroupName (name : String)
  /-- No group has the name. -/
  | unknownGroup (name : String)
  /-- A group is referred to before its end. -/
  | openGroup
  /-- A look behind refers to a group that it holds. -/
  | groupInLookBehind
  /-- The kind of parentheses is not known. -/
  | unknownExtension (text : String)
  /-- A comment does not end. -/
  | unterminatedComment
  /-- A pair of parentheses is not closed. -/
  | unterminatedGroup
  /-- No group has the number. -/
  | invalidReference (number : Nat)
  /-- A group is asked for by the number zero. -/
  | badGroupNumber
  /-- A choice by a group has more than two branches. -/
  | tooManyBranches
  /-- A name is given to a second group. -/
  | groupRedefined (name : String) (number earlier : Nat)
  /-- Flags for the whole pattern do not stand at its start. -/
  | lateFlags
  /-- A letter is no flag. -/
  | unknownFlag
  /-- The flags are not followed by `-`, `:` or a closing parenthesis. -/
  | missingFlagsEnd
  /-- No flag follows the minus sign. -/
  | missingFlag
  /-- The flags turned off are not followed by a colon. -/
  | missingColon
  /-- A flag of byte patterns. -/
  | localeFlag
  /-- Flags that exclude each other. -/
  | incompatibleFlags
  /-- A flag of whole patterns is turned on for a part. -/
  | globalFlagOn
  /-- A flag of whole patterns is turned off for a part. -/
  | globalFlagOff
  /-- A flag of the character set is turned off. -/
  | characterSetFlagOff
  /-- A flag is turned on and off. -/
  | flagOnAndOff
  /-- A closing parenthesis has no opening one. -/
  | unbalanced
  /-- A look behind may take different numbers of characters. -/
  | lookBehindWidth
  /-- A look behind takes too many characters. -/
  | lookBehindTooFar
  /-- A repetition in a pattern with the template flag. -/
  | templateRepeat (kind : String)
  /-- A bound of a repetition is too large. -/
  | boundTooLarge
  /-- The flags for ASCII and for Unicode are both set. -/
  | asciiAndUnicode
  /-- A number has too many digits. -/
  | tooManyDigits (count : Nat)
  deriving DecidableEq, Repr

namespace Cause

/-- The wording of a cause. -/
def message : Cause → String
  | danglingEscape => "bad escape (end of pattern)"
  | badEscape escape => "bad escape " ++ escape
  | incompleteEscape escape => "incomplete escape " ++ escape
  | octalTooLarge escape => "octal escape value " ++ escape ++ " outside of range 0-0o377"
  | missingBrace => "missing \x7b"
  | missingName what => "missing " ++ what
  | unterminatedName terminator =>
    "missing " ++ String.singleton terminator ++ ", unterminated name"
  | unknownCharacter name => "undefined character name " ++ Text.quoted name
  | unterminatedSet => "unterminated character set"
  | badRange first last => "bad character range " ++ first ++ "-" ++ last
  | boundsReversed => "min repeat greater than max repeat"
  | nothingToRepeat => "nothing to repeat"
  | multipleRepeat => "multiple repeat"
  | unexpectedEnd => "unexpected end of pattern"
  | badGroupName name => "bad character in group name " ++ Text.quoted name
  | unknownGroup name => "unknown group name " ++ Text.quoted name
  | openGroup => "cannot refer to an open group"
  | groupInLookBehind => "cannot refer to group defined in the same lookbehind subpattern"
  | unknownExtension text => "unknown extension ?" ++ text
  | unterminatedComment => "missing ), unterminated comment"
  | unterminatedGroup => "missing ), unterminated subpattern"
  | invalidReference number => "invalid group reference " ++ toString number
  | badGroupNumber => "bad group number"
  | tooManyBranches => "conditional backref with more than two branches"
  | groupRedefined name number earlier =>
    "redefinition of group name " ++ Text.quoted name ++ " as group " ++ toString number ++
      "; was group " ++ toString earlier
  | lateFlags => "global flags not at the start of the expression"
  | unknownFlag => "unknown flag"
  | missingFlagsEnd => "missing -, : or )"
  | missingFlag => "missing flag"
  | missingColon => "missing :"
  | localeFlag => "bad inline flags: cannot use 'L' flag with a str pattern"
  | incompatibleFlags => "bad inline flags: flags 'a', 'u' and 'L' are incompatible"
  | globalFlagOn => "bad inline flags: cannot turn on global flag"
  | globalFlagOff => "bad inline flags: cannot turn off global flag"
  | characterSetFlagOff => "bad inline flags: cannot turn off flags 'a', 'u' and 'L'"
  | flagOnAndOff => "bad inline flags: flag turned on and off"
  | unbalanced => "unbalanced parenthesis"
  | lookBehindWidth => "look-behind requires fixed-width pattern"
  | lookBehindTooFar => "looks too much behind"
  | templateRepeat kind => "internal: unsupported template operator " ++ kind
  | boundTooLarge => "the repetition number is too large"
  | asciiAndUnicode => "ASCII and UNICODE flags are incompatible"
  | tooManyDigits count =>
    "Exceeds the limit (4300 digits) for integer string conversion: value has " ++
      toString count ++ " digits; use sys.set_int_max_str_digits() to increase the limit"

/-- Whether a cause is a limit of the reader rather than a fault of the pattern. -/
def isLimit : Cause → Bool
  | boundTooLarge | asciiAndUnicode | tooManyDigits _ => true
  | _ => false

end Cause

/-- A cause with the place in the pattern text to which it belongs. -/
structure Refusal where
  cause : Cause
  place : Option Nat
  deriving DecidableEq, Repr

/-- The wording of a refusal: its cause and its place. -/
def Refusal.message (refusal : Refusal) : String :=
  match refusal.place with
  | none => refusal.cause.message
  | some place => refusal.cause.message ++ " at position " ++ toString place

end Shellbox.Pattern
