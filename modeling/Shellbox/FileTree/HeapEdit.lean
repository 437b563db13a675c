import Shellbox.FileTree.Heap
/-!
# Editing linked nodes

The edits of a file tree, carried out on linked nodes. An edit works on nodes and not on paths: it
walks to a node once, changes its links, and answers with nodes. A node that is put into a directory
is told so, and a node that is taken out is told so as well; `move` gives the same node another name
and another directory, and `copy` makes a new node for every node that it copies.

| Edit | Effect on the links |
|---|---|
| `make` | gives the next number to a node in no directory |
| `addChild`, `removeChild` | put a node into a directory, or take it out |
| `openDir` | walks to a directory, adding missing ones if asked to |
| `cloneNode` | makes a copy, in no directory, of a node and all below it |
-/

namespace Shellbox

/-- An action on linked nodes that ends with a value or with the cause of its failure. -/
abbrev HeapEdit (α : Type) := ExceptT Fault (StateM Heap) α

namespace HeapEdit

/-- Ends with the outcome of a question that changes nothing. -/
def ask {α : Type} (question : Heap → Except Fault α) : HeapEdit α := do
  ExceptT.mk (do return question (← get))

/-- Changes a node. -/
def change (ref : Ref) (f : Cell → Cell) : HeapEdit Unit := modify (·.alter ref f)

/-- Makes a node that is in no directory. -/
def make (now : Nat) (name : String) (held : Held) : HeapEdit Ref := do
  let heap ← get
  set (heap.grown (.fresh now name held))
  return heap.next

/-- Puts a node under its name behind the other children of a directory. -/
def addChild (now : Nat) (dir child : Ref) : HeapEdit Unit := do
  let heap ← get
  let name := (heap.cell child).name
  if (heap.child? dir name).isSome then throw (.occupied (heap.pathOf dir ++ [name]))
  modify (·.adopt now dir child)

/-- Takes a child out of a directory. -/
def removeChild (now : Nat) (dir : Ref) (key : String) : HeapEdit Unit := do
  let heap ← get
  match heap.child? dir key with
  | none => throw (.missing (heap.pathOf dir ++ [key]))
  | some child => modify (·.release now dir key child)

/-- Walks down from a node to a directory, making the missing ones if `make` holds. -/
def openDir (now : Nat) (makes : Bool) (ref : Ref) : Path → HeapEdit Ref
  | [] => do
    let heap ← get
    if heap.isDir ref then return ref else throw (.notADirectory (heap.pathOf ref))
  | key :: rest => do
    let heap ← get
    if heap.isDir ref then
      match heap.child? ref key with
      | some child => openDir now makes child rest
      | none =>
        if makes then
          let child ← make now key (.dir [])
          addChild now ref child
          openDir now makes child rest
        else throw (.missing (heap.pathOf ref ++ [key]))
    else throw (.notADirectory (heap.pathOf ref))

/-- Splits a path into a directory and a name in it and opens the directory. -/
def openParent (now : Nat) (makes : Bool) (path : Path) : HeapEdit (Ref × String) := do
  match path.split? with
  | none => throw .rootAsTarget
  | some (parent, name) => return (← openDir now makes Heap.root parent, name)

/-- Sees to it that there is a file at the path. If nothing is there, an empty file is made. -/
def ensureFile (now : Nat) (parents : Bool) (path : Path) : HeapEdit Ref := do
  let (dir, name) ← openParent now parents path
  let heap ← get
  match heap.child? dir name with
  | some child =>
    if heap.isDir child then throw (.isADirectory (heap.pathOf child)) else return child
  | none =>
    let child ← make now name (.file "")
    addChild now dir child
    return child

/-- Makes an empty file or directory under a name in the directory at a path. -/
def create (now : Nat) (parent : Path) (name kind : String) : HeapEdit Ref := do
  if !Edit.isName name then throw (.badName name)
  let dir ← ask (·.directory parent)
  let heap ← get
  if (heap.child? dir name).isSome then throw (.occupied (heap.pathOf dir ++ [name]))
  let child ← match kind with
    | "file" => make now name (.file "")
    | "dir" => make now name (.dir [])
    | _ => throw (.unknownKind kind)
  addChild now dir child
  return child

/-- Makes a directory. With `parents`, missing directories above it are made as well; with
`existOk`, a directory that is there already will do. The directory above is handed on by its path
text. -/
def mkdir (now : Nat) (path : Path) (parents existOk : Bool) : HeapEdit Ref := do
  if existOk && (← get).hasDir path then
    ask (·.directory path)
  else
    let (dir, name) ← openParent now parents path
    create now (Path.read "/" (some ((← get).pathOf dir).render)) name "dir"

/-- Stamps the file at a path, making an empty one if nothing is there. -/
def touch (now : Nat) (path : Path) : HeapEdit Ref := do
  let file ← ensureFile now false path
  change file (·.touched now)
  return file

/-- Gives the file at a path its text, making the file if nothing is there. With `parents`,
missing directories above it are made as well. -/
def writeFile (now : Nat) (path : Path) (text : String) (parents : Bool) : HeapEdit Ref := do
  let file ← ensureFile now parents path
  change file (·.withText now text)
  return file

/-- The first obstacle to writing a file at the end of a path below a node, where missing
directories would be made. -/
def uploadObstacle (heap : Heap) (ref : Ref) : Path → Option Fault
  | [] => if heap.isDir ref then some (.isADirectory (heap.pathOf ref)) else none
  | key :: rest =>
    if heap.isDir ref then
      match heap.child? ref key with
      | none => none
      | some child => uploadObstacle heap child rest
    else some (.notADirectory (heap.pathOf ref))

/-- Fails if a file could not be written at the path as the nodes are now. -/
def checkUpload (path : Path) : HeapEdit Unit := do
  if path.isEmpty then throw .rootAsTarget
  match uploadObstacle (← get) Heap.root path with
  | some fault => throw fault
  | none => return

/-- Writes a batch of files, making missing directories. All paths are checked before the first
file is written. -/
def upload (now : Nat) (files : List (Path × String)) : HeapEdit (List Ref) := do
  for (path, _) in files do
    checkUpload path
  files.mapM fun (path, text) => writeFile now path text true

/-- Takes the node at a path out of its directory. A directory with children needs `recursive`. -/
def remove (now : Nat) (path : Path) (recursive : Bool) : HeapEdit Unit := do
  if path.isEmpty then throw .rootRemoval
  let node ← ask (·.resolve path)
  let heap ← get
  if !(heap.children node).isEmpty && !recursive then throw (.notEmpty path)
  match (heap.cell node).parent with
  | none => throw (.parentless "remove")
  | some dir => removeChild now dir (heap.cell node).name

/-- Makes a copy of a node and all below it, in no directory, with fuel for the depth. -/
def cloneNode (now : Nat) : Nat → Ref → HeapEdit Ref
  | 0, ref => return ref
  | fuel + 1, ref => do
    let cell := (← get).cell ref
    match cell.held with
    | .file text => make now cell.name (.file text)
    | .dir children =>
      let copy ← make now cell.name (.dir [])
      children.forM fun child => do
        addChild now copy (← cloneNode now fuel child.2)
      return copy

/-- The directory and the name for a node called `name` that is to go to `target`: a directory that
stands there receives the node, and a target that is missing names it anew. -/
def destination (target : Path) (name : String) (heap : Heap) : Except Fault (Ref × String) :=
  match heap.resolve target, target.split? with
  | .ok found, _ =>
    if heap.isDir found then
      if (heap.child? found name).isSome then .error (.occupied (heap.pathOf found ++ [name]))
      else .ok (found, name)
    else .error (.occupied target)
  | .error (.missing _), some (parent, last) => (heap.directory parent).map fun dir => (dir, last)
  | .error fault, _ => .error fault

/-- Finds out what a copy or a move from `source` to `target` will do, or why it cannot be done:
the node, the directory and the name where it goes. -/
def planTransfer (source target : Path) (heap : Heap) : Except Fault (Ref × Ref × String) :=
  if source.isEmpty then .error .rootTransfer
  else do
    let node ← heap.resolve source
    let (dir, name) ← destination target (heap.cell node).name heap
    if heap.isDir node && Path.within source (heap.pathOf dir) then .error (.insideItself source)
    else .ok (node, dir, name)

/-- Puts a copy of the node at `source`, made now in all its parts, at `target`. -/
def copy (now : Nat) (source target : Path) : HeapEdit Ref := do
  let (node, dir, name) ← ask (planTransfer source target)
  let copied ← cloneNode now (← get).next node
  change copied fun cell => { cell with name }
  addChild now dir copied
  return copied

/-- Takes the node at `source` out and puts it at `target`. -/
def move (now : Nat) (source target : Path) : HeapEdit Ref := do
  let (node, dir, name) ← ask (planTransfer source target)
  let cell := (← get).cell node
  match cell.parent with
  | none => throw (.parentless "move")
  | some parent =>
    removeChild now parent cell.name
    change node fun cell => { cell with name }
    addChild now dir node
    change node (·.touched now)
    return node

/-- Performs an operation in a working directory and answers with nodes. -/
def perform (now : Nat) (cwd : String) : Operation → HeapEdit (List Ref)
  | .create parent name kind =>
    return [← create now (Path.read cwd parent) name kind]
  | .mkdir path parents existOk =>
    return [← mkdir now (Path.read cwd path) parents existOk]
  | .touch path => return [← touch now (Path.read cwd path)]
  | .writeFile path text parents =>
    return [← writeFile now (Path.read cwd path) text parents]
  | .upload files =>
    upload now (files.map fun (path, text) => (Path.read cwd path, text))
  | .remove path recursive => do
    remove now (Path.read cwd path) recursive
    return []
  | .copy source target =>
    return [← copy now (Path.read cwd source) (Path.read cwd target)]
  | .move source target =>
    return [← move now (Path.read cwd source) (Path.read cwd target)]

end HeapEdit

end Shellbox
