import Shellbox.Pattern.Refusal
import Shellbox.Pattern.Syntax
import Shellbox.Text.CharName
import Shellbox.Text.Identifier
import Shellbox.Text.Numeral
/-!
# Reading pattern texts

`Pattern.read` turns a pattern text into a `Pattern` or refuses it. The text is read token by
token, where a token is one character or a backslash with the character behind it; the reader
always looks one token ahead, so a backslash at the very end is found as soon as the token before
it is taken.

Reading goes on at three levels: `readChoice` reads alternatives, `readSequence` the items of one
of them, and `readGroup` what stands in parentheses. Each call has the fuel that is left, and
spends some of it on every token, so that a fuel of a few times the length of the text suffices.
-/

namespace Shellbox.Pattern

/-- The flags in force at a place of a pattern. -/
structure Flags where
  ignoreCase : Bool := false
  eachLine : Bool := false
  dotAll : Bool := false
  verbose : Bool := false
  ascii : Bool := false
  unicode : Bool := false
  template : Bool := false
  deriving DecidableEq, Repr

namespace Flags

/-- Turns the flag of a letter on or off. -/
def set (on : Bool) (flags : Flags) : Char → Flags
  | 'i' => { flags with ignoreCase := on }
  | 'm' => { flags with eachLine := on }
  | 's' => { flags with dotAll := on }
  | 'x' => { flags with verbose := on }
  | 'a' => { flags with ascii := on }
  | 'u' => { flags with unicode := on }
  | 't' => { flags with template := on }
  | _ => flags

/-- The flags inside parentheses that turn some on and some off. A flag for the character set
takes the place of the one outside. -/
def inside (flags : Flags) (on off : List Char) : Flags :=
  let flags :=
    if on.any (fun c => c = 'a' || c = 'u') then { flags with ascii := false, unicode := false }
    else flags
  off.foldl (set false) (on.foldl (set true) flags)

/-- How letter case counts. -/
def fold (flags : Flags) : Fold :=
  if flags.ignoreCase then (if flags.ascii then .ascii else .unicode) else .exact

end Flags

/-- What the reader knows at a place of the text: the characters still to come, the place, the
flags for the whole pattern, the widths of the groups so far (`none` for a group still open),
their names, the first group that a look behind may not refer to, and the groups asked for by
number with the places where that happens. -/
structure Reader where
  rest : List Char
  place : Nat
  flags : Flags
  widths : List (Option (Nat × Nat))
  names : List (List Char × Nat)
  lookBehindFrom : Option Nat
  references : List (Nat × Nat)

/-- A step of the reader. -/
abbrev Reading (α : Type) := StateT Reader (Except Refusal) α

namespace Reading

/-- Refuses the text at a place so many characters back. -/
def refuse {α : Type} (cause : Cause) (back : Nat) : Reading α := do
  throw ⟨cause, some ((← get).place - back)⟩

/-- Refuses the text at a given place. -/
def refuseAt {α : Type} (cause : Cause) (place : Nat) : Reading α := throw ⟨cause, some place⟩

/-- The next token, if there is one. -/
def peek : Reading (Option (List Char)) := do
  match (← get).rest with
  | [] => return none
  | '\\' :: c :: _ => return some ['\\', c]
  | c :: _ => return some [c]

/-- Fails if the rest of the text is a single backslash. -/
def checkAhead : Reading Unit := do
  if (← get).rest = ['\\'] then refuse .danglingEscape 0

/-- Takes the next token, if there is one. -/
def take : Reading (Option (List Char)) := do
  match ← peek with
  | none => return none
  | some token =>
    modify fun r => { r with rest := r.rest.drop token.length, place := r.place + token.length }
    checkAhead
    return some token

/-- Takes the next token if it is the given character. -/
def accept (c : Char) : Reading Bool := do
  if (← peek) = some [c] then
    let _ ← take
    return true
  else return false

/-- Takes characters of a class, at most so many. -/
def takeWhile (p : Char → Bool) : Nat → Reading (List Char)
  | 0 => return []
  | most + 1 => do
    match ← peek with
    | some [c] =>
      if p c then
        let _ ← take
        return c :: (← takeWhile p most)
      else return []
    | _ => return []

/-- Takes tokens up to and including a terminator and gives the text before it, which is a name
of the given kind. -/
def takeName (terminator : Char) (what : String) : Nat → List Char → Reading (List Char)
  | 0, name => return name
  | fuel + 1, name => do
    match ← take with
    | none =>
      if name.isEmpty then refuse (.missingName what) 0
      else refuse (.unterminatedName terminator) name.length
    | some token =>
      if token = [terminator] then
        if name.isEmpty then refuse (.missingName what) 1 else return name
      else takeName terminator what fuel (name ++ token)

/-- The fuel that suffices for taking all tokens. -/
def fuel : Reading Nat := do return (← get).rest.length + 1

end Reading

open Reading

/-- Whether a character is a hexadecimal digit. -/
def isHex (c : Char) : Bool :=
  c.isDigit || ('a' ≤ c && c ≤ 'f') || ('A' ≤ c && c ≤ 'F')

/-- Whether a character is an octal digit. -/
def isOctal (c : Char) : Bool := '0' ≤ c && c ≤ '7'

/-- The value of a list of hexadecimal digits. -/
def hexValue (digits : List Char) : Nat :=
  digits.foldl (fun value d =>
    16 * value + (if d.isDigit then d.toNat - 48 else d.toLower.toNat - 87)) 0

/-- The value of a list of octal digits. -/
def octalValue (digits : List Char) : Nat :=
  digits.foldl (fun value d => 8 * value + (d.toNat - 48)) 0

/-- Reads the digits of an escape that has exactly so many and means a code point. -/
def readHex (escape : List Char) (count : Nat) : Reading Nat := do
  let digits ← takeWhile isHex count
  let whole := escape ++ digits
  if digits.length ≠ count then
    refuse (.incompleteEscape (String.ofList whole)) whole.length
  if hexValue digits > 0x10FFFF then refuse (.badEscape (String.ofList whole)) whole.length
  return hexValue digits

/-- Reads the rest of an escape that means the same inside and outside a set, if it is one:
a control character, a code point by its digits, or a character by its name. -/
def readCode? (escape : List Char) : Char → Reading (Option Nat)
  | 'a' => return some 7
  | 'f' => return some 12
  | 'n' => return some 10
  | 'r' => return some 13
  | 't' => return some 9
  | 'v' => return some 11
  | '\\' => return some 92
  | 'x' => return some (← readHex escape 2)
  | 'u' => return some (← readHex escape 4)
  | 'U' => return some (← readHex escape 8)
  | 'N' => do
    if !(← accept '\x7b') then refuse .missingBrace 0
    let name ← takeName '\x7d' "character name" (← fuel) []
    match Text.namedCode? (String.ofList name) with
    | some n => return some n
    | none => refuse (.unknownCharacter (String.ofList name)) (name.length + 4)
  | _ => return none

/-- The class that an escape stands for, and whether it stands for all other characters. -/
def shorthand? : Char → Option (Shorthand × Bool)
  | 'd' => some (.digit, false)
  | 'D' => some (.digit, true)
  | 's' => some (.blank, false)
  | 'S' => some (.blank, true)
  | 'w' => some (.word, false)
  | 'W' => some (.word, true)
  | _ => none

/-- Reads an escape inside a set, of which the first token is given. -/
def readSetEscape (flags : Flags) (c : Char) : Reading SetItem := do
  let escape := ['\\', c]
  if c = 'b' then return .code 8
  match shorthand? c with
  | some (class_, negated) => return .shorthand class_ flags.ascii negated
  | none =>
    match ← readCode? escape c with
    | some n => return .code n
    | none =>
      if isOctal c then
        let digits := c :: (← takeWhile isOctal 2)
        let whole := '\\' :: digits
        if octalValue digits > 0o377 then
          refuse (.octalTooLarge (String.ofList whole)) whole.length
        return .code (octalValue digits)
      else if c.isAlphanum then refuse (.badEscape (String.ofList escape)) 2
      else return .code c.toNat

/-- Whether a group has been closed. -/
def isClosed (number : Nat) : Reading Bool := do
  match (← get).widths[number - 1]? with
  | some (some _) => return number != 0
  | _ => return false

/-- Fails if a look behind may not refer to a group. -/
def checkLookBehind (number : Nat) : Reading Unit := do
  match (← get).lookBehindFrom with
  | none => return
  | some first =>
    if !(← isClosed number) then refuse .openGroup 0
    if number ≥ first then refuse .groupInLookBehind 0

/-- The pattern for the text of a closed group. -/
def backrefTo (flags : Flags) (number : Nat) : Reading Pattern := do
  match (← get).widths[number - 1]? with
  | some (some (least, greatest)) => return .backref flags.fold number least greatest
  | _ => return .backref flags.fold number 0 0

/-- The pattern for one given character. -/
def literal (flags : Flags) (n : Nat) : Pattern := .one (.code flags.fold false n)

/-- Reads an escape outside a set that starts with a digit other than zero: three octal digits
are a character, all else refers to a group. -/
def readDigitEscape (flags : Flags) (c : Char) : Reading Pattern := do
  let second ← takeWhile Char.isDigit 1
  let digits := c :: second
  if !second.isEmpty && digits.all isOctal then
    let third ← takeWhile isOctal 1
    if !third.isEmpty then
      let digits := digits ++ third
      if octalValue digits > 0o377 then
        refuse (.octalTooLarge (String.ofList ('\\' :: digits))) (digits.length + 1)
      return literal flags (octalValue digits)
  let number := Text.digitsValue digits
  if number ≤ (← get).widths.length then
    if !(← isClosed number) then refuse .openGroup (digits.length + 1)
    checkLookBehind number
    backrefTo flags number
  else refuse (.invalidReference number) digits.length

/-- Reads an escape outside a set, of which the first token is given. -/
def readEscape (flags : Flags) (c : Char) : Reading Pattern := do
  match c with
  | 'A' => return .anchor .start
  | 'Z' => return .anchor .finish
  | 'b' => return .anchor (.boundary flags.ascii false)
  | 'B' => return .anchor (.boundary flags.ascii true)
  | _ =>
    match shorthand? c with
    | some (class_, negated) =>
      return .one (.oneOf flags.fold false [.shorthand class_ flags.ascii negated])
    | none =>
      match ← readCode? ['\\', c] c with
      | some n => return literal flags n
      | none =>
        if c = '0' then return literal flags (octalValue (← takeWhile isOctal 2))
        else if c.isDigit then readDigitEscape flags c
        else if c.isAlpha then refuse (.badEscape (String.ofList ['\\', c])) 2
        else return literal flags c.toNat

/-- The set item that a token inside a set stands for. -/
def readSetToken (flags : Flags) : List Char → Reading SetItem
  | ['\\', c] => readSetEscape flags c
  | c :: _ => return .code c.toNat
  | [] => return .code 0

/-- Reads the items of a set that was opened at a place, up to its end. -/
def readSetItems (flags : Flags) (opened : Nat) : Nat → List SetItem → Reading (List SetItem)
  | 0, items => return items
  | fuel + 1, items => do
    match ← take with
    | none => refuseAt .unterminatedSet opened
    | some token =>
      if token = [']'] && !items.isEmpty then return items
      let item ← readSetToken flags token
      if !(← accept '-') then readSetItems flags opened fuel (items ++ [item])
      else
        match ← take with
        | none => refuseAt .unterminatedSet opened
        | some [']'] => return items ++ [item, .code 45]
        | some upper =>
          let back := token.length + 1 + upper.length
          let cause := Cause.badRange (String.ofList token) (String.ofList upper)
          match item, ← readSetToken flags upper with
          | .code lo, .code hi =>
            if hi < lo then refuse cause back
            readSetItems flags opened fuel (items ++ [.span lo hi])
          | _, _ => refuse cause back

/-- Reads a set behind its opening bracket. -/
def readSet (flags : Flags) : Reading Pattern := do
  let opened := (← get).place - 1
  let negated ← accept '^'
  let items ← readSetItems flags opened (← fuel) []
  match items.eraseDups with
  | [.code n] => return .one (.code flags.fold negated n)
  | items => return .one (.oneOf flags.fold negated items)

/-- Bounds of a repetition must be smaller than this. -/
def boundLimit : Nat := 4294967295

/-- The value of a bound of a repetition. -/
def readBound (digits : List Char) : Reading Nat := do
  if digits.length > Text.maxDigits then throw ⟨.tooManyDigits digits.length, none⟩
  let n := Text.digitsValue digits
  if n ≥ boundLimit then throw ⟨.boundTooLarge, none⟩
  return n

/-- Reads the bounds of a repetition behind an opening brace, up to the closing one. Without
a closing brace in its place, the text is no repetition and nothing is taken. -/
def readBounds? : Reading (Option (Nat × Option Nat)) := do
  let before ← get
  if (← peek) = some ['\x7d'] then return none
  let lo ← takeWhile Char.isDigit (← fuel)
  let hi ← if ← accept ',' then takeWhile Char.isDigit (← fuel) else pure lo
  if !(← accept '\x7d') then
    set before
    return none
  let least ← if lo.isEmpty then pure 0 else readBound lo
  if hi.isEmpty then return some (least, none)
  let most ← readBound hi
  if most < least then refuseAt .boundsReversed before.place
  return some (least, some most)

/-- The bounds of a repetition that starts with a character, `none` for a brace that starts no
repetition. -/
def readRepetition? : Char → Reading (Option (Nat × Option Nat))
  | '?' => return some (0, some 1)
  | '*' => return some (0, none)
  | '+' => return some (1, none)
  | _ => readBounds?

/-- Reads what follows the bounds of a repetition and says how eager it is. -/
def readGreed : Reading Greed := do
  if ← accept '?' then return .lazy
  if ← accept '+' then return .possessive
  return .greedy

/-- Puts the last of the items read so far, which are in reverse, under a repetition whose
character stands at a place. -/
def repeatLast (place : Nat) (bounds : Nat × Option Nat) :
    List Pattern → Reading (List Pattern)
  | [] => refuseAt .nothingToRepeat place
  | .anchor _ :: _ => refuseAt .nothingToRepeat place
  | .rep .. :: _ => refuseAt .multipleRepeat place
  | item :: items => do
    return .rep (← readGreed) bounds.1 bounds.2 item :: items

/-- The letters of the flags. -/
def flagLetters : List Char := ['i', 'L', 'm', 's', 'x', 'a', 't', 'u']

/-- Whether a token is a letter that stands for a flag. -/
def flag? : List Char → Option Char
  | [c] => if flagLetters.contains c then some c else none
  | _ => none

/-- Refuses a token in the place of a flag. -/
def refuseFlag {α : Type} (otherwise : Cause) (token : List Char) : Reading α :=
  match token with
  | [c] => refuse (if Text.isLetter c.toNat then .unknownFlag else otherwise) 1
  | _ => refuse otherwise token.length

/-- Whether a flag chooses a character set. -/
def choosesCharacters (c : Char) : Bool := c = 'a' || c = 'u' || c = 'L'

/-- Reads the flags that are turned on, of which the first is given, up to what ends them. -/
def readFlagsOn : Nat → Char → List Char → Reading (List Char × Char)
  | 0, c, on => return (on, c)
  | fuel + 1, c, on => do
    if c = 'L' then refuse .localeFlag 0
    if choosesCharacters c && on.any (fun d => choosesCharacters d && d != c) then
      refuse .incompatibleFlags 0
    let on := on ++ [c]
    match ← take with
    | none => refuse .missingFlagsEnd 0
    | some token =>
      match token, flag? token with
      | [')'], _ => return (on, ')')
      | ['-'], _ => return (on, '-')
      | [':'], _ => return (on, ':')
      | _, some c => readFlagsOn fuel c on
      | _, none => refuseFlag .missingFlagsEnd token

/-- Reads the flags that are turned off, of which the first is given, up to the colon. -/
def readFlagsOff : Nat → Char → List Char → Reading (List Char)
  | 0, _, off => return off
  | fuel + 1, c, off => do
    if choosesCharacters c then refuse .characterSetFlagOff 0
    let off := off ++ [c]
    match ← take with
    | none => refuse .missingColon 0
    | some token =>
      match token, flag? token with
      | [':'], _ => return off
      | _, some c => readFlagsOff fuel c off
      | _, none => refuseFlag .missingColon token

/-- Reads flags, of which the first character is given. Flags for the whole pattern are set at
once; flags for a part are given as those turned on and those turned off. -/
def readFlags (first : Char) : Reading (Option (List Char × List Char)) := do
  let (on, ending) ← if first = '-' then pure ([], '-') else readFlagsOn (← fuel) first []
  if ending = ')' then
    modify fun r => { r with flags := on.foldl (Flags.set true) r.flags }
    return none
  if on.contains 't' then refuse .globalFlagOn 1
  if ending = ':' then return some (on, [])
  match ← take with
  | none => refuse .missingFlag 0
  | some token =>
    match flag? token with
    | none => refuseFlag .missingFlag token
    | some c =>
      let off ← readFlagsOff (← fuel) c []
      if off.contains 't' then refuse .globalFlagOff 1
      if on.any off.contains then refuse .flagOnAndOff 1
      return some (on, off)

/-- Opens a group, under a name if one is given, and gives its number. -/
def openGroup (name : Option (List Char)) : Reading Nat := do
  let number := (← get).widths.length + 1
  modify fun r => { r with widths := r.widths ++ [none] }
  if let some name := name then
    match (← get).names.lookup name with
    | some earlier =>
      refuse (.groupRedefined (String.ofList name) number earlier) (name.length + 1)
    | none => modify fun r => { r with names := r.names ++ [(name, number)] }
  return number

/-- Closes a group of which the body is given. -/
def closeGroup (number : Nat) (body : Pattern) : Reading Unit :=
  modify fun r => { r with widths := r.widths.set (number - 1) (some body.width) }

/-- Takes the closing parenthesis of what was opened at a place. -/
def close (opened : Nat) : Reading Unit := do
  if !(← accept ')') then refuseAt .unterminatedGroup opened

/-- Reads the name of a group up to a terminator. -/
def readGroupName (terminator : Char) : Reading (List Char) := do
  let name ← takeName terminator "group name" (← fuel) []
  if !Text.isIdentifier name then refuse (.badGroupName (String.ofList name)) (name.length + 1)
  return name

/-- The number of the group of a name. -/
def groupNamed (name : List Char) : Reading Nat := do
  match (← get).names.lookup name with
  | some number => return number
  | none => refuse (.unknownGroup (String.ofList name)) (name.length + 1)

/-- Group numbers in a choice by a group must be smaller than this. -/
def groupLimit : Nat := 1073741823

/-- Reads the group that a choice depends on, by name or by number. -/
def readCondition : Reading Nat := do
  let name ← takeName ')' "group name" (← fuel) []
  let number ←
    if Text.isIdentifier name then groupNamed name
    else
      match Text.integer? name with
      | some (.ofNat number) => do
        if number = 0 then refuse .badGroupNumber (name.length + 1)
        if number ≥ groupLimit then refuse (.invalidReference number) (name.length + 1)
        let place := (← get).place - name.length - 1
        if ((← get).references.lookup number).isNone then
          modify fun r => { r with references := r.references ++ [(number, place)] }
        pure number
      | _ => refuse (.badGroupName (String.ofList name)) (name.length + 1)
  checkLookBehind number
  return number

/-- Takes a comment up to its closing parenthesis. -/
def skipComment (opened : Nat) : Nat → Reading Unit
  | 0 => return
  | fuel + 1 => do
    match ← take with
    | none => refuseAt .unterminatedComment opened
    | some token => if token = [')'] then return else skipComment opened fuel

/-- Takes a comment of a verbose pattern up to the end of its line. -/
def skipLine : Nat → Reading Unit
  | 0 => return
  | fuel + 1 => do
    match ← take with
    | none => return
    | some token => if token = ['\n'] then return else skipLine fuel

/-- Whether a verbose pattern skips a token: white space. -/
def isSkipped (token : List Char) : Bool :=
  match token with
  | [c] => (9 ≤ c.toNat && c.toNat ≤ 13) || c = ' '
  | _ => false

/-- The pattern for `^` or `$` or a full stop, if the character is one of them. -/
def simple? (flags : Flags) : Char → Option Pattern
  | '^' => some (.anchor (.lineStart flags.eachLine))
  | '$' => some (.anchor (.lineEnd flags.eachLine))
  | '.' => some (.one (.any flags.dotAll))
  | _ => none

mutual

/-- Reads alternatives up to a closing parenthesis or the end. At the top the flags in force are
those for the whole pattern. -/
def readChoice : Nat → Bool → Flags → List (List Pattern) → Reading Pattern
  | 0, _, _, _ => return .empty
  | fuel + 1, top, flags, done => do
    let whole := (← get).flags
    let flags := if top then whole else flags
    let branch ← readSequence fuel (top && done.isEmpty) flags []
    if ← accept '|' then readChoice fuel top flags (branch.items :: done)
    else return choice (branch.items :: done).reverse

/-- Reads items up to a bar, a closing parenthesis or the end, on top of those read so far, which
are in reverse. Flags for the whole pattern are admitted if `first` holds and no item was read. -/
def readSequence : Nat → Bool → Flags → List Pattern → Reading Pattern
  | 0, _, _, _ => return .empty
  | fuel + 1, first, flags, items => do
    match ← peek with
    | none | some ['|'] | some [')'] => return ofList (items.reverse.flatMap unpacked)
    | some token =>
      let _ ← take
      if flags.verbose && isSkipped token then readSequence fuel first flags items
      else if flags.verbose && token = ['#'] then
        skipLine (← Reading.fuel)
        readSequence fuel first flags items
      else
        match token with
        | ['\\', c] => readSequence fuel first flags ((← readEscape flags c) :: items)
        | ['['] => readSequence fuel first flags ((← readSet flags) :: items)
        | ['('] =>
          let item? ← readGroup fuel (first && items.isEmpty) flags
          let whole := (← get).flags
          let flags := if first then whole else flags
          readSequence fuel first flags (item?.toList ++ items)
        | c :: _ =>
          if ['?', '*', '+', '\x7b'].contains c then
            let place := (← get).place - 1
            match ← readRepetition? c with
            | none => readSequence fuel first flags (literal flags c.toNat :: items)
            | some bounds =>
              readSequence fuel first flags (← repeatLast place bounds items)
          else
            match simple? flags c with
            | some item => readSequence fuel first flags (item :: items)
            | none => readSequence fuel first flags (literal flags c.toNat :: items)
        | [] => readSequence fuel first flags items

/-- Reads what stands behind an opening parenthesis. Comments and flags for the whole pattern,
which need `atStart`, are no items. A group with flags of its own stays a group in its sequence. -/
def readGroup : Nat → Bool → Flags → Reading (Option Pattern)
  | 0, _, _ => return none
  | fuel + 1, atStart, flags => do
    let opened := (← get).place - 1
    if !(← accept '?') then return some (← readCapture fuel opened flags none)
    match ← take with
    | none => refuse .unexpectedEnd 0
    | some ['P'] =>
      if ← accept '<' then
        let name ← readGroupName '>'
        return some (← readCapture fuel opened flags (some name))
      else if ← accept '=' then
        let name ← readGroupName ')'
        let number ← groupNamed name
        if !(← isClosed number) then refuse .openGroup (name.length + 1)
        checkLookBehind number
        return some (← backrefTo flags number)
      else
        match ← take with
        | none => refuse .unexpectedEnd 0
        | some token =>
          refuse (.unknownExtension (String.ofList ('P' :: token))) (token.length + 2)
    | some [':'] =>
      let body ← readChoice fuel false flags []
      close opened
      return some (.group none body)
    | some ['#'] =>
      skipComment opened (← Reading.fuel)
      return none
    | some ['='] =>
      let body ← readChoice fuel false flags []
      close opened
      return some (.ahead false body)
    | some ['!'] =>
      let body ← readChoice fuel false flags []
      close opened
      return some (.ahead true body)
    | some ['<'] =>
      match ← take with
      | none => refuse .unexpectedEnd 0
      | some token =>
        if token ≠ ['='] && token ≠ ['!'] then
          refuse (.unknownExtension (String.ofList ('<' :: token))) (token.length + 2)
        let outer := (← get).lookBehindFrom
        if outer.isNone then
          modify fun r => { r with lookBehindFrom := some (r.widths.length + 1) }
        let body ← readChoice fuel false flags []
        if outer.isNone then modify fun r => { r with lookBehindFrom := none }
        close opened
        return some (.behind (token = ['!']) body)
    | some ['('] =>
      let number ← readCondition
      let body ← readSequence fuel false flags []
      let otherwise ←
        if ← accept '|' then
          let otherwise ← readSequence fuel false flags []
          if (← peek) = some ['|'] then refuse .tooManyBranches 0
          pure otherwise
        else pure .empty
      close opened
      return some (.ifGroup number body otherwise)
    | some ['>'] =>
      let body ← readChoice fuel false flags []
      close opened
      return some (.atomic body)
    | some token =>
      match token with
      | [c] =>
        if flagLetters.contains c || c = '-' then
          match ← readFlags c with
          | none =>
            if !atStart then refuseAt .lateFlags opened
            return none
          | some (on, off) =>
            let body ← readChoice fuel false (flags.inside on off) []
            close opened
            return some (.group none (.group none body))
        else refuse (.unknownExtension (String.ofList token)) (token.length + 1)
      | _ => refuse (.unknownExtension (String.ofList token)) (token.length + 1)

/-- Reads the body of a group that keeps its text. -/
def readCapture : Nat → Nat → Flags → Option (List Char) → Reading Pattern
  | 0, _, _, _ => return .empty
  | fuel + 1, opened, flags, name => do
    let number ← openGroup name
    let body ← readChoice fuel false flags []
    close opened
    closeGroup number body
    return .group (some number) body

end

/-- The name of a kind of repetition in a refusal. -/
def Greed.label : Greed → String
  | .greedy => "MAX_REPEAT"
  | .lazy => "MIN_REPEAT"
  | .possessive => "POSSESSIVE_REPEAT"

/-- The first cause for which a pattern that could be read is refused after all: a look behind
of no fixed width, or a repetition under the template flag. -/
def flaw? (template : Bool) : Pattern → Option Cause
  | .empty => none
  | .one _ => none
  | .anchor _ => none
  | .backref .. => none
  | .seq first second => first.flaw? template <|> second.flaw? template
  | .alt first second => first.flaw? template <|> second.flaw? template
  | .ifGroup _ body otherwise => body.flaw? template <|> otherwise.flaw? template
  | .group _ body => body.flaw? template
  | .atomic body => body.flaw? template
  | .ahead _ body => body.flaw? template
  | .behind _ body =>
    if body.width.1 > boundLimit then some .lookBehindTooFar
    else if body.width.1 ≠ body.width.2 then some .lookBehindWidth
    else body.flaw? template
  | .rep greed _ _ body =>
    if template then some (.templateRepeat greed.label) else body.flaw? template

/-- Reads a whole pattern text. -/
def readAll (length : Nat) : Reading Pattern := do
  checkAhead
  let pattern ← readChoice (4 * length + 8) true {} []
  let after ← get
  if after.flags.ascii && after.flags.unicode then throw ⟨.asciiAndUnicode, none⟩
  if !after.rest.isEmpty then refuse .unbalanced 0
  match after.references.find? (fun (number, _) => number > after.widths.length) with
  | some (number, place) => refuseAt (.invalidReference number) place
  | none => pure ()
  match pattern.flaw? after.flags.template with
  | some cause => throw ⟨cause, none⟩
  | none => return pattern

/-- Reads a pattern text, ignoring letter case from the start if `ignoreCase` holds. -/
def read (ignoreCase : Bool) (text : List Char) : Except Refusal Pattern :=
  (readAll text.length).run'
    { rest := text, place := 0, flags := { ignoreCase }, widths := [], names := [],
      lookBehindFrom := none, references := [] }

end Shellbox.Pattern
