import Shellbox.FileTree.Lookup
/-!
# Editing a file tree

An edit runs on a tree and ends with a value or a `Fault`. The tree it leaves behind is there in
both cases, so that a failed edit may be compared with what it found. Every edit is told the
time `now`, which becomes the stamp of what it makes and changes.

| Edit | Effect |
|---|---|
| `openDir` | walks to a directory, making missing ones if asked to |
| `create` | makes an empty file or directory under a name in a directory |
| `mkdir` | makes a directory |
| `touch` | stamps a file, making an empty one if there is none |
| `writeFile` | gives a file its text, making it if there is none |
| `upload` | checks a batch of files, then writes them one after the other |
| `remove` | takes a file or a directory out |
| `copy`, `move` | puts a copy, or the node itself, in another place |
-/

namespace Shellbox

/-- An action on a file tree that ends with a value or with the cause of its failure. -/
abbrev Edit (α : Type) := ExceptT Fault (StateM FileTree) α

/-- Walks down from a node that stands at `seen` to a directory, making the missing ones at time
`now` if `make` holds. The second part of the result is the node afterwards. -/
def Node.openDir (now : Nat) (make : Bool) (seen : Path) :
    Path → Node → Except Fault Entries × Node
  | [], .dir stamps inside => (.ok inside, .dir stamps inside)
  | _, .file stamps text => (.error (.notADirectory seen), .file stamps text)
  | name :: rest, .dir stamps inside =>
    match inside.find? name with
    | some child =>
      let (outcome, child) := child.openDir now make (seen ++ [name]) rest
      (outcome, .dir stamps (inside.replace name child))
    | none =>
      if make then
        let (outcome, child) :=
          Node.openDir now make (seen ++ [name]) rest (.dir (.fresh now) .nil)
        (outcome, .dir (stamps.touched now) (inside.push name child))
      else (.error (.missing (seen ++ [name])), .dir stamps inside)

namespace Edit

/-- Ends with the outcome of a question that changes nothing. -/
def ask {α : Type} (question : FileTree → Except Fault α) : Edit α := do
  ExceptT.mk (do return question (← get))

/-- Changes the node at a path. -/
def amend (path : Path) (change : Node → Node) : Edit Unit :=
  modify fun tree => tree.amend path change

/-- Walks to the directory at a path, making missing directories if `make` holds. -/
def openDir (now : Nat) (make : Bool) (path : Path) : Edit Entries :=
  ExceptT.mk fun tree =>
    match tree.root.openDir now make [] path with
    | (outcome, .dir stamps inside) => (outcome, ⟨stamps, inside⟩)
    | (outcome, .file ..) => (outcome, tree)

/-- Splits a path into a directory and a name in it and opens the directory. -/
def openParent (now : Nat) (make : Bool) (path : Path) : Edit (Path × String × Entries) := do
  match path.split? with
  | none => throw .rootAsTarget
  | some (parent, name) => return (parent, name, ← openDir now make parent)

/-- Puts a node under a new name behind the other children of a directory. -/
def addChild (now : Nat) (parent : Path) (name : String) (node : Node) : Edit Unit := do
  let inside ← ask (·.directory parent)
  if (inside.find? name).isSome then throw (.occupied (parent ++ [name]))
  amend parent (.relisted now (·.push name node))

/-- Takes a child out of a directory. -/
def removeChild (now : Nat) (parent : Path) (name : String) : Edit Unit := do
  let inside ← ask (·.directory parent)
  if (inside.find? name).isNone then throw (.missing (parent ++ [name]))
  amend parent (.relisted now (·.erase name))

/-- Sees to it that there is a file at the path. If nothing is there, an empty file is made. -/
def ensureFile (now : Nat) (parents : Bool) (path : Path) : Edit Unit := do
  let (parent, name, inside) ← openParent now parents path
  match inside.find? name with
  | some (.file ..) => return
  | some (.dir ..) => throw (.isADirectory path)
  | none => addChild now parent name (.file (.fresh now) "")

/-- Whether a text can be the name of a child. -/
def isName (name : String) : Bool :=
  name != "" && !name.toList.contains '/' && name != "." && name != ".."

/-- Makes an empty file or directory under a name in the directory at a path. -/
def create (now : Nat) (parent : Path) (name kind : String) : Edit Path := do
  if !isName name then throw (.badName name)
  let inside ← ask (·.directory parent)
  if (inside.find? name).isSome then throw (.occupied (parent ++ [name]))
  match kind with
  | "file" => addChild now parent name (.file (.fresh now) "")
  | "dir" => addChild now parent name (.dir (.fresh now) .nil)
  | _ => throw (.unknownKind kind)
  return parent ++ [name]

/-- Makes a directory. With `parents`, missing directories above it are made as well; with
`existOk`, a directory that is there already will do. -/
def mkdir (now : Nat) (path : Path) (parents existOk : Bool) : Edit Path := do
  if existOk && (← get).hasDir path then return path
  let (parent, name, _) ← openParent now parents path
  create now parent name "dir"

/-- Stamps the file at a path, making an empty one if nothing is there. -/
def touch (now : Nat) (path : Path) : Edit Path := do
  ensureFile now false path
  amend path (.touched now)
  return path

/-- Gives the file at a path its text, making the file if nothing is there. With `parents`,
missing directories above it are made as well. -/
def writeFile (now : Nat) (path : Path) (text : String) (parents : Bool) : Edit Path := do
  ensureFile now parents path
  amend path (.withText now text)
  return path

/-- The first obstacle to writing a file at the end of a path below a node that stands at
`seen`, where missing directories would be made. -/
def uploadObstacle (seen : Path) : Path → Node → Option Fault
  | [], .dir .. => some (.isADirectory seen)
  | [], .file .. => none
  | _ :: _, .file .. => some (.notADirectory seen)
  | name :: rest, .dir _ inside =>
    match inside.find? name with
    | none => none
    | some child => uploadObstacle (seen ++ [name]) rest child

/-- Fails if a file could not be written at the path into the tree as it is now. -/
def checkUpload (path : Path) : Edit Unit := do
  if path.isEmpty then throw .rootAsTarget
  match uploadObstacle [] path (← get).root with
  | some fault => throw fault
  | none => return

/-- Writes a batch of files, making missing directories. All paths are checked before the first
file is written; the files are then written in order, each into the tree that the ones before it
left. -/
def upload (now : Nat) (files : List (Path × String)) : Edit (List Path) := do
  for (path, _) in files do
    checkUpload path
  files.mapM fun (path, text) => writeFile now path text true

/-- Takes the node at a path out of the tree. A directory with children needs `recursive`. -/
def remove (now : Nat) (path : Path) (recursive : Bool) : Edit Unit := do
  match path.split? with
  | none => throw .rootRemoval
  | some (parent, name) =>
    match ← ask (·.resolve path) with
    | .file .. => removeChild now parent name
    | .dir _ inside =>
      if !inside.isEmpty && !recursive then throw (.notEmpty path)
      removeChild now parent name

/-- What a copy or a move will do: the directory and the name where the node goes. A target that
is a directory receives the node under its own name. -/
structure Transfer where
  node : Node
  sourceParent : Path
  sourceName : String
  parent : Path
  name : String
  deriving DecidableEq, Repr

/-- The directory and the name for a node called `name` that is to go to `target`: a directory that
stands there receives the node, and a target that is missing names it anew. -/
def destination (target : Path) (name : String) (tree : FileTree) :
    Except Fault (Path × String) :=
  match tree.resolve target, target.split? with
  | .ok (.dir _ inside), _ =>
    if (inside.find? name).isSome then .error (.occupied (target ++ [name])) else .ok (target, name)
  | .ok (.file ..), _ => .error (.occupied target)
  | .error (.missing _), some (parent, last) => (tree.directory parent).map fun _ => (parent, last)
  | .error fault, _ => .error fault

/-- Finds out what a copy or a move from `source` to `target` will do, or why it cannot be
done. -/
def planTransfer (source target : Path) (tree : FileTree) : Except Fault Transfer :=
  match source.split? with
  | none => .error .rootTransfer
  | some (sourceParent, sourceName) => do
    let node ← tree.resolve source
    let (parent, name) ← destination target sourceName tree
    if node.isDir && Path.within source parent then .error (.insideItself source)
    else .ok ⟨node, sourceParent, sourceName, parent, name⟩

/-- Puts a copy of the node at `source`, made now in all its parts, at `target`. -/
def copy (now : Nat) (source target : Path) : Edit Path := do
  let plan ← ask (planTransfer source target)
  addChild now plan.parent plan.name (plan.node.renewed now)
  return plan.parent ++ [plan.name]

/-- Takes the node at `source` out and puts it at `target`. -/
def move (now : Nat) (source target : Path) : Edit Path := do
  let plan ← ask (planTransfer source target)
  removeChild now plan.sourceParent plan.sourceName
  addChild now plan.parent plan.name (plan.node.touched now)
  return plan.parent ++ [plan.name]

end Edit

end Shellbox
