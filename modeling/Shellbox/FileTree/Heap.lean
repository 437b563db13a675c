import Shellbox.FileTree.Operation
import Shellbox.Keyed
/-!
# File trees of linked nodes

A file tree can be kept as nodes that refer to each other: a directory refers to its children, each
under a key, and a node has a name of its own and refers back to the directory that it is in. Such
a node does not know its path. `Heap.pathOf` finds the path by climbing from the node to the root,
and all faults name the paths that are found in this way.

| Function | What it gives |
|---|---|
| `Heap.pathOf` | the names of a node and of the directories above it |
| `Heap.descend` | the node at the end of a path, along the keys |
| `Heap.walk` | the nodes at and below a node, with the paths that they climb |
-/

namespace Shellbox

/-- What a node is referred to by. -/
abbrev Ref := Nat

/-- What a linked node holds. -/
inductive Held where
  /-- The text of a file. -/
  | file (text : String)
  /-- The children of a directory under their keys, in order. -/
  | dir (children : List (String × Ref))
  deriving DecidableEq, Repr

/-- A file or a directory with its links. -/
structure Cell where
  name : String
  /-- The directory that the node is in. -/
  parent : Option Ref
  stamps : Stamps
  held : Held
  deriving DecidableEq, Repr

namespace Cell

/-- A node made now that is in no directory. -/
def fresh (now : Nat) (name : String) (held : Held) : Cell := ⟨name, none, .fresh now, held⟩

/-- The node as changed now. -/
def touched (now : Nat) (cell : Cell) : Cell := { cell with stamps := cell.stamps.touched now }

/-- A directory with other children, changed now. A file stays as it is. -/
def relisted (now : Nat) (change : List (String × Ref) → List (String × Ref)) (cell : Cell) : Cell :=
  match cell.held with
  | .dir children => { cell with stamps := cell.stamps.touched now, held := .dir (change children) }
  | .file _ => cell

/-- A file with another text, changed now. A directory stays as it is. -/
def withText (now : Nat) (text : String) (cell : Cell) : Cell :=
  match cell.held with
  | .file _ => { cell with stamps := cell.stamps.touched now, held := .file text }
  | .dir _ => cell

end Cell

/-- Linked nodes by what refers to them. The numbers below `next` have been given to nodes. -/
structure Heap where
  cell : Ref → Cell
  next : Nat

namespace Heap

/-- The node of the root directory. -/
def root : Ref := 0

/-- The heap of an empty root directory made at time zero. -/
def empty : Heap := ⟨fun _ => .fresh 0 "" (.dir []), 1⟩

/-- Changes a node. -/
def alter (ref : Ref) (change : Cell → Cell) (heap : Heap) : Heap :=
  { heap with cell := fun other => if other = ref then change (heap.cell ref) else heap.cell other }

/-- Gives the next number to a node. -/
def grown (cell : Cell) (heap : Heap) : Heap :=
  { heap.alter heap.next fun _ => cell with next := heap.next + 1 }

/-- Gives a directory other children since now, and a node another directory that it refers to. -/
def relink (now : Nat) (dir child : Ref) (parent : Option Ref)
    (change : List (String × Ref) → List (String × Ref)) (heap : Heap) : Heap :=
  (heap.alter child fun cell => { cell with parent }).alter dir (·.relisted now change)

/-- Puts a node under its name behind the children of a directory. -/
def adopt (now : Nat) (dir child : Ref) (heap : Heap) : Heap :=
  heap.relink now dir child (some dir) (Keyed.put (heap.cell child).name child)

/-- Takes a child from under its key out of a directory. -/
def release (now : Nat) (dir : Ref) (key : String) (child : Ref) (heap : Heap) : Heap :=
  heap.relink now dir child none (·.eraseP fun pair => pair.1 = key)

/-- The children of a node. A file has none. -/
def children (heap : Heap) (ref : Ref) : List (String × Ref) :=
  match (heap.cell ref).held with
  | .dir children => children
  | .file _ => []

/-- Whether a node is a directory. -/
def isDir (heap : Heap) (ref : Ref) : Bool :=
  match (heap.cell ref).held with
  | .dir _ => true
  | .file _ => false

/-- The child of a node under a key. -/
def child? (heap : Heap) (ref : Ref) (key : String) : Option Ref := (heap.children ref).lookup key

/-- The names from the root to a node, as they are met on the way up, with fuel for the steps. -/
def climb (heap : Heap) : Nat → Ref → Path
  | 0, _ => []
  | fuel + 1, ref =>
    match (heap.cell ref).parent with
    | none => []
    | some parent => heap.climb fuel parent ++ [(heap.cell ref).name]

/-- The path of a node. A way up that ends comes to no node twice. -/
def pathOf (heap : Heap) (ref : Ref) : Path := heap.climb heap.next ref

/-- Walks down from a node along the keys and gives the node at the end of the path, or the first
obstacle on the way. -/
def descend (heap : Heap) (ref : Ref) : Path → Except Fault Ref
  | [] => .ok ref
  | key :: rest =>
    if heap.isDir ref then
      match heap.child? ref key with
      | none => .error (.missing (heap.pathOf ref ++ [key]))
      | some child => heap.descend child rest
    else .error (.notADirectory (heap.pathOf ref))

/-- The node at a path, or the first obstacle met on the way from the root. -/
def resolve (heap : Heap) (path : Path) : Except Fault Ref := heap.descend root path

/-- Whether there is anything at the path. -/
def holds (heap : Heap) (path : Path) : Bool :=
  match heap.resolve path with
  | .ok _ => true
  | .error _ => false

/-- Whether there is a directory at the path. -/
def hasDir (heap : Heap) (path : Path) : Bool :=
  match heap.resolve path with
  | .ok ref => heap.isDir ref
  | .error _ => false

/-- The directory at a path. -/
def directory (heap : Heap) (path : Path) : Except Fault Ref := do
  let ref ← heap.resolve path
  if heap.isDir ref then .ok ref else .error (.notADirectory (heap.pathOf ref))

/-- The node and everything below it, each with its path, with fuel for the depth. -/
def walkFrom (heap : Heap) : Nat → Ref → List (Path × Ref)
  | 0, _ => []
  | fuel + 1, ref =>
    (heap.pathOf ref, ref) :: (heap.children ref).flatMap fun child => heap.walkFrom fuel child.2

/-- Everything at or below a path: a directory before what is inside it. -/
def walk (heap : Heap) (path : Path) : Except Fault (List (Path × Ref)) := do
  return heap.walkFrom heap.next (← heap.resolve path)

/-- All nodes at and below the root in the order of `walk`. -/
def toList (heap : Heap) : List (Path × Ref) := heap.walkFrom heap.next root

end Heap

end Shellbox
