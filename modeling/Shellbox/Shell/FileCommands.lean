import Shellbox.Shell.Session
/-!
# Commands on files

`cat` reads files; `touch`, `mkdir`, `rm`, `cp`, `mv` and `echo` edit the file tree. Each command
works from a working directory and a list of arguments. A cause of failure that a command does
not put into words of its own is left to the caller, and what was done up to then stays done.
-/

namespace Shellbox.Shell

/-- An edit that, where it fails with a cause for which there are words, answers with them. What
the edit did up to then stays done. -/
def orSay (words : Fault → Option String) (edit : Edit String) : Edit String :=
  ExceptT.mk do
    match ← edit.run with
    | .ok output => return .ok output
    | .error cause =>
      match words cause with
      | some line => return .ok line
      | none => return .error cause

/-- The arguments that stand for working on whole subtrees. -/
def recursiveFlags : List String := ["-r", "-R", "-rf", "-fr", "-Rf", "--recursive"]

/-- Reads the files of a list of operands one after the other, on top of the texts read before,
which are in reverse. -/
def catEach (tree : FileTree) (cwd : Path) (texts : List String) :
    List String → Except Fault String
  | [] => .ok (Text.joinWith "\n" texts.reverse)
  | path :: rest =>
    match tree.fileText (Path.readFrom cwd path) with
    | .error (.missing _) => .ok ("cat: " ++ path ++ ": No such file")
    | .error (.isADirectory _) => .ok ("cat: " ++ path ++ ": Is a directory")
    | .error cause => .error cause
    | .ok text => catEach tree cwd ((if text = "" then "(empty file)" else text) :: texts) rest

/-- Prints the texts of files. -/
def cat (tree : FileTree) (cwd : Path) (args : List String) : Except Fault String :=
  if args.isEmpty then .ok "cat: missing file operand" else catEach tree cwd [] args

/-- Touches a list of operands one after the other and reports those at whose paths nothing
was. -/
def touchEach (now : Nat) (cwd : Path) (created : List String) : List String → Edit String
  | [] => return Text.joinWith "\n" created.reverse
  | path :: rest => do
    let target := Path.readFrom cwd path
    let existed := (← get).holds target
    let _ ← Edit.touch now target
    touchEach now cwd (if existed then created else ("File created: " ++ path) :: created) rest

/-- Stamps files, making those that are not there. -/
def touch (now : Nat) (cwd : Path) (args : List String) : Edit String :=
  if args.isEmpty then return "touch: missing file operand" else touchEach now cwd [] args

/-- What `mkdir` says about a cause of failure at an operand. -/
def mkdirWords (path : String) : Fault → Option String
  | .missing _ =>
    some ("mkdir: " ++ path ++ ": No such file or directory (use -p to create parents)")
  | .occupied _ => some ("mkdir: " ++ path ++ ": File exists")
  | _ => none

/-- Makes a list of directories one after the other. What there is to say about each is put on
top of the lines before, which are in reverse. -/
def mkdirEach (now : Nat) (cwd : Path) (parents : Bool) (lines : List String) :
    List String → Edit String
  | [] => return Text.joinWith "\n" lines.reverse
  | path :: rest => do
    let target := Path.readFrom cwd path
    if parents && (← get).hasDir target then mkdirEach now cwd parents lines rest
    else
      let line ← orSay (mkdirWords path) do
        let _ ← Edit.mkdir now target parents false
        return "Directory created: " ++ path
      mkdirEach now cwd parents (line :: lines) rest

/-- Makes directories. -/
def mkdir (now : Nat) (cwd : Path) (args : List String) : Edit String :=
  let isFlag := fun arg => arg = "-p" || arg = "--parents"
  let paths := args.filter fun arg => !isFlag arg
  if paths.isEmpty then return "mkdir: missing operand"
  else mkdirEach now cwd (args.any isFlag) [] paths

/-- What `rm` says about a cause of failure at its operand. -/
def rmWords (target : String) : Fault → Option String
  | .missing _ => some ("rm: " ++ target ++ ": No such file or directory")
  | .notEmpty _ => some ("rm: " ++ target ++ ": Directory not empty (use -r to remove it)")
  | _ => none

/-- Removes the file or directory of the last argument, unless the working directory would go
with it. -/
def rm (now : Nat) (cwd : Path) (args : List String) : Edit String := do
  match args.getLast? with
  | none => return "rm: missing operand"
  | some target =>
    if recursiveFlags.contains target then return "rm: missing operand"
    let recursive := args.dropLast.any recursiveFlags.contains
    if Session.holdsCwd cwd target then
      return "rm: " ++ target ++ ": Cannot remove the current directory or one of its parents"
    orSay (rmWords target) do
      Edit.remove now (Path.readFrom cwd target) recursive
      return "Removed: " ++ target ++ (if recursive then " (recursive)" else "")

/-- The source and the destination among the arguments of a copy or a move. -/
def transferOperands? (args : List String) : Option (String × String) :=
  match args.filter fun arg => !recursiveFlags.contains arg with
  | [source, target] => some (source, target)
  | _ => none

/-- Copies a file or directory. -/
def cp (now : Nat) (cwd : Path) (args : List String) : Edit String :=
  match transferOperands? args with
  | none => return "cp: expected a source and a destination"
  | some (source, target) =>
    orSay (fun cause => some ("cp: " ++ cause.message)) do
      let _ ← Edit.copy now (Path.readFrom cwd source) (Path.readFrom cwd target)
      return "Copied: " ++ source ++ " -> " ++ target

/-- Moves a file or directory, unless the working directory would go with it. -/
def mv (now : Nat) (cwd : Path) (args : List String) : Edit String :=
  match transferOperands? args with
  | none => return "mv: expected a source and a destination"
  | some (source, target) =>
    if Session.holdsCwd cwd source then
      return "mv: " ++ source ++ ": Cannot move the current directory or one of its parents"
    else
      orSay (fun cause => some ("mv: " ++ cause.message)) do
        let _ ← Edit.move now (Path.readFrom cwd source) (Path.readFrom cwd target)
        return "Moved: " ++ source ++ " -> " ++ target

/-- What `echo` says about a cause of failure at the file to write. -/
def echoWords (path : String) : Fault → Option String
  | .isADirectory _ => some ("echo: " ++ path ++ ": Is a directory")
  | .missing _ => some ("echo: " ++ path ++ ": No such file or directory")
  | _ => none

/-- Prints the arguments, or writes those before the first `>` to the file behind it. -/
def echo (now : Nat) (cwd : Path) (args : List String) : Edit String :=
  match args.dropWhile (· != ">") with
  | [] => return Text.joinWith " " args
  | [_] => return "echo: syntax error: expected a file name after '>'"
  | _ :: path :: _ =>
    orSay (echoWords path) do
      let text := Text.joinWith " " (args.takeWhile (· != ">"))
      let _ ← Edit.writeFile now (Path.readFrom cwd path) text false
      return "Wrote to file: " ++ path

end Shellbox.Shell
