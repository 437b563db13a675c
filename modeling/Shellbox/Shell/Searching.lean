import Shellbox.Glob
import Shellbox.Pattern.Reader
import Shellbox.Pattern.Search
import Shellbox.Shell.Session
import Shellbox.Text.Case
import Shellbox.Text.Lines
/-!
# Searching

`grep` shows the lines of files in which a text or a pattern occurs; `find` shows the paths of
nodes by name and kind.

Without regard to letter case, a text is looked for in its lower-case form in the lower-case form
of each line.
-/

namespace Shellbox.Shell

/-- What `grep` is asked for. -/
structure GrepRequest where
  deep : Bool := false
  usesPattern : Bool := false
  ignoreCase : Bool := false
  numbered : Bool := false
  pattern : Option String := none
  paths : List String := []
  deriving DecidableEq, Repr

/-- Takes one argument of `grep` into account. The first that is no flag is the pattern. -/
def GrepRequest.take (request : GrepRequest) (arg : String) : GrepRequest :=
  match arg with
  | "-r" | "-R" | "--recursive" => { request with deep := true }
  | "-i" | "--ignore-case" => { request with ignoreCase := true }
  | "-n" | "--line-number" => { request with numbered := true }
  | "-E" | "--regex" => { request with usesPattern := true }
  | _ =>
    match request.pattern with
    | none => { request with pattern := some arg }
    | some _ => { request with paths := request.paths ++ [arg] }

/-- The lines of a file that pass a test, each behind the path of the file and, if `numbered`
holds, its number. -/
def matchingLines (test : List Char → Bool) (numbered : Bool) (file : Path × String) :
    List String :=
  let lines := (Text.lines file.2.toList).zipIdx 1
  (lines.filter fun (line, _) => test line).map fun (line, number) =>
    file.1.render ++ ":" ++ (if numbered then toString number ++ ":" else "") ++
      String.ofList line

/-- The matching lines of all files at the targets, in order. -/
def grepEach (tree : FileTree) (cwd : Path) (test : List Char → Bool) (deep numbered : Bool) :
    List String → Except Fault (List String)
  | [] => .ok []
  | target :: rest => do
    let files ← tree.files (Path.readFrom cwd target) deep
    let others ← grepEach tree cwd test deep numbered rest
    return files.flatMap (matchingLines test numbered) ++ others

/-- What is wrong with the targets of `grep`, if anything: the first that is a directory, unless
whole subtrees are searched, or that is not there. -/
def grepObstacle? (tree : FileTree) (cwd : Path) (deep : Bool) : List String → Option String
  | [] => none
  | target :: rest =>
    let path := Path.readFrom cwd target
    if tree.hasDir path && !deep then some ("grep: " ++ target ++ ": Is a directory")
    else if !tree.holds path then some ("grep: " ++ target ++ ": No such file or directory")
    else grepObstacle? tree cwd deep rest

/-- The test for the occurrence of a text in a line. -/
def textTest (ignoreCase : Bool) (text : List Char) (line : List Char) : Bool :=
  if ignoreCase then Text.occursIn (Text.lower text) (Text.lower line)
  else Text.occursIn text line

/-- Searches files for lines. -/
def grep (tree : FileTree) (cwd : Path) (args : List String) : Except Failure String :=
  let request := args.foldl GrepRequest.take {}
  match request.pattern with
  | none => .ok "grep: missing pattern"
  | some pattern =>
    if request.paths.isEmpty && !request.deep then .ok "grep: missing file operand"
    else
      let paths := if request.paths.isEmpty then ["."] else request.paths
      let search (test : List Char → Bool) : Except Failure String :=
        match grepObstacle? tree cwd request.deep paths with
        | some line => .ok line
        | none =>
          match grepEach tree cwd test request.deep request.numbered paths with
          | .ok lines => .ok (Text.joinWith "\n" lines)
          | .error cause => .error (.fault cause)
      if request.usesPattern then
        match Pattern.read false pattern.toList, Pattern.read request.ignoreCase pattern.toList with
        | .ok _, .ok compiled => search compiled.occurs
        | .error refusal, _ | _, .error refusal =>
          if refusal.cause.isLimit then .error (.patternLimit refusal.cause)
          else .ok ("grep: invalid pattern: " ++ refusal.message)
      else search (textTest request.ignoreCase pattern.toList)

/-- What `find` is asked for: where to start, a pattern for names, whether names are compared in
lower case, and whether only directories or only files are wanted. -/
structure FindRequest where
  paths : List String := []
  name : Option String := none
  ignoreCase : Bool := false
  wantsDir : Option Bool := none
  deriving DecidableEq, Repr

/-- Reads the arguments of `find` on top of a request, or says what is wrong with them. -/
def findRequest (request : FindRequest) : List String → Except String FindRequest
  | [] => .ok request
  | "-name" :: pattern :: rest =>
    findRequest { request with name := some pattern, ignoreCase := false } rest
  | "-iname" :: pattern :: rest =>
    findRequest { request with name := some (Text.lowerString pattern), ignoreCase := true } rest
  | "-type" :: "f" :: rest => findRequest { request with wantsDir := some false } rest
  | "-type" :: "d" :: rest => findRequest { request with wantsDir := some true } rest
  | "-type" :: kind :: _ => .error ("find: unknown argument to -type: " ++ kind)
  | arg :: rest =>
    if ["-name", "-iname", "-type"].contains arg then
      .error ("find: missing argument to " ++ String.singleton (Char.ofNat 96) ++ arg ++ "'")
    else if arg.toList.head? = some '-' then
      .error ("find: unknown predicate " ++ String.singleton (Char.ofNat 96) ++ arg ++ "'")
    else findRequest { request with paths := request.paths ++ [arg] } rest

/-- Whether a node with its path is wanted. -/
def FindRequest.wants (request : FindRequest) (found : Path × Node) : Bool :=
  request.wantsDir.all (· == found.2.isDir) &&
    match request.name with
    | none => true
    | some pattern =>
      let name := (found.1.getLast?.getD "").toList
      Glob.matchesAll (Glob.read pattern.toList)
        (if request.ignoreCase then Text.lower name else name)

/-- The paths of the wanted nodes at or below the starting points, in order. -/
def findEach (tree : FileTree) (cwd : Path) (request : FindRequest) :
    List String → Except String (List String)
  | [] => .ok []
  | start :: rest =>
    match tree.walk (Path.readFrom cwd start) with
    | .error _ =>
      .error ("find: " ++ String.singleton (Char.ofNat 96) ++ start ++
        "': No such file or directory")
    | .ok walked => do
      let others ← findEach tree cwd request rest
      return (walked.filter request.wants).map (·.1.render) ++ others

/-- Shows the paths of nodes. -/
def find (tree : FileTree) (cwd : Path) (args : List String) : String :=
  let answer := do
    let request ← findRequest {} args
    let paths := if request.paths.isEmpty then ["."] else request.paths
    findEach tree cwd request paths
  match answer with
  | .ok lines => Text.joinWith "\n" lines
  | .error line => line

end Shellbox.Shell
