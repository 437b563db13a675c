import Shellbox.Shell.Session
/-!
# Looking around

`cd` changes the working directory, by one component at a time; `ls` lists directories.
-/

namespace Shellbox.Shell

/-- Where `cd` leads from a working directory, or what it says instead. A directory is entered
only under its own name. -/
def cd (tree : FileTree) (cwd : Path) (args : List String) : Except Fault String × Path :=
  match args with
  | [] => (.ok "", [])
  | target :: _ =>
    if target = ".." then (.ok "", cwd.dropLast)
    else
      match tree.directory cwd with
      | .error cause => (.error cause, cwd)
      | .ok inside =>
        match inside.find? target with
        | some (.dir ..) => (.ok "", cwd ++ [target])
        | _ => (.ok ("cd: " ++ target ++ ": No such directory"), cwd)

/-- What is listed and how: lines with a mode, and names that start with a full stop. -/
structure ListingStyle where
  long : Bool
  hidden : Bool
  deriving DecidableEq, Repr

/-- Reads the arguments of `ls` on top of the style and the targets found so far, which are in
reverse. Without the flags `l` and `a` alone, an argument that starts with a hyphen is refused by
its least unknown character. -/
def listingOptions (style : ListingStyle) (targets : List String) :
    List String → Except Char (ListingStyle × List String)
  | [] => .ok (style, targets.reverse)
  | arg :: rest =>
    match arg.toList with
    | '-' :: c :: flags =>
      let flags := c :: flags
      match Text.leastChar? (flags.filter fun flag => flag != 'l' && flag != 'a') with
      | some unknown => .error unknown
      | none =>
        listingOptions ⟨style.long || flags.contains 'l', style.hidden || flags.contains 'a'⟩
          targets rest
    | _ => listingOptions style (arg :: targets) rest

/-- The listing of a directory as text. -/
def formatListing (long : Bool) (listed : List Listed) : String :=
  if long then
    Text.joinWith "\n" (listed.map fun entry =>
      (if entry.isDir then "d" else "-") ++ "rw-r--r-- " ++ entry.name)
  else
    Text.joinWith "  " (listed.map fun entry =>
      if entry.isDir then entry.name ++ "/" else entry.name)

/-- The blocks of text for the targets of `ls`, each headed by its target if `headed` holds. A
file is listed by its operand. -/
def listingBlocks (tree : FileTree) (cwd : Path) (style : ListingStyle) (headed : Bool) :
    List String → Except Fault (List String)
  | [] => .ok []
  | target :: rest => do
    let path := Path.readFrom cwd target
    if tree.hasFile path then return target :: (← listingBlocks tree cwd style headed rest)
    let listed ← tree.list path
    let shown := listed.filter fun entry => style.hidden || entry.name.toList.head? != some '.'
    let block := formatListing style.long shown
    let rest ← listingBlocks tree cwd style headed rest
    return if headed then (target ++ ":") :: block :: rest else block :: rest

/-- Lists files and directories. -/
def ls (tree : FileTree) (cwd : Path) (args : List String) : Except Fault String := do
  match listingOptions ⟨false, false⟩ [] args with
  | .error unknown => return "ls: invalid option -- '" ++ String.singleton unknown ++ "'"
  | .ok (style, targets) =>
    let targets := if targets.isEmpty then ["."] else targets
    let blocks ← listingBlocks tree cwd style (targets.length > 1) targets
    return Text.joinWith "\n" (blocks.filter (· != ""))

end Shellbox.Shell
