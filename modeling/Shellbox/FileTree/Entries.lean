import Shellbox.FileTree.Path
/-!
# Directory contents and nodes

A directory lists its children in the order in which they were put there. `Entries` is that
list: a file holds its text, a directory the entries inside it, and both carry the times at
which they were made and last changed. A `Node` is one child without its name. Here the place of a
child in the list is all that gives it a name and a parent. Nodes that keep a name and links of their
own are in `FileTree.Heap`.

| Function | What it does to the list of children |
|---|---|
| `Entries.find?` | looks a child up by name |
| `Entries.push` | puts a child behind the others |
| `Entries.erase` | takes the child of a name out |
| `Entries.replace` | puts another node in the place of the child of a name |
| `Node.amend` | changes the node at a path and nothing else |
-/

namespace Shellbox

/-- When a node was made and when it was last changed. -/
structure Stamps where
  created : Nat
  modified : Nat
  deriving DecidableEq, Repr, Inhabited

namespace Stamps

/-- The stamps of a node made now. -/
def fresh (now : Nat) : Stamps := ⟨now, now⟩

/-- The stamps of a node changed now. -/
def touched (now : Nat) (stamps : Stamps) : Stamps := { stamps with modified := now }

end Stamps

/-- The children of a directory, each with its name, in order. -/
inductive Entries where
  /-- No child. -/
  | nil
  /-- A file, then the children behind it. -/
  | file (name : String) (stamps : Stamps) (text : String) (rest : Entries)
  /-- A directory with what is inside it, then the children behind it. -/
  | dir (name : String) (stamps : Stamps) (inside : Entries) (rest : Entries)
  deriving DecidableEq, Repr, Inhabited

/-- A file or a directory, apart from its name. -/
inductive Node where
  /-- A file with its text. -/
  | file (stamps : Stamps) (text : String)
  /-- A directory with its children. -/
  | dir (stamps : Stamps) (inside : Entries)
  deriving DecidableEq, Repr, Inhabited

namespace Entries

/-- The children as a list of names and nodes. -/
def toList : Entries → List (String × Node)
  | nil => []
  | file name stamps text rest => (name, .file stamps text) :: rest.toList
  | dir name stamps inside rest => (name, .dir stamps inside) :: rest.toList

/-- The names of the children in order. -/
def names (entries : Entries) : List String := entries.toList.map Prod.fst

/-- Whether there is no child. -/
def isEmpty : Entries → Bool
  | nil => true
  | _ => false

/-- The children of which the first is the given one. -/
def cons (name : String) : Node → Entries → Entries
  | .file stamps text, rest => file name stamps text rest
  | .dir stamps inside, rest => dir name stamps inside rest

/-- The first child of a name. -/
def find? (name : String) : Entries → Option Node
  | nil => none
  | file n stamps text rest => if n = name then some (.file stamps text) else rest.find? name
  | dir n stamps inside rest => if n = name then some (.dir stamps inside) else rest.find? name

/-- Puts a child behind all others. -/
def push (name : String) (node : Node) : Entries → Entries
  | nil => cons name node nil
  | file n stamps text rest => file n stamps text (rest.push name node)
  | dir n stamps inside rest => dir n stamps inside (rest.push name node)

/-- Takes the first child of a name out. -/
def erase (name : String) : Entries → Entries
  | nil => nil
  | file n stamps text rest => if n = name then rest else file n stamps text (rest.erase name)
  | dir n stamps inside rest => if n = name then rest else dir n stamps inside (rest.erase name)

/-- Puts another node in the place of the first child of a name. -/
def replace (name : String) (node : Node) : Entries → Entries
  | nil => nil
  | file n stamps text rest =>
    if n = name then cons n node rest else file n stamps text (rest.replace name node)
  | dir n stamps inside rest =>
    if n = name then cons n node rest else dir n stamps inside (rest.replace name node)

@[simp] theorem toList_cons (name : String) (node : Node) (rest : Entries) :
    (cons name node rest).toList = (name, node) :: rest.toList := by
  cases node <;> rfl

/-- A pushed child comes last and leaves the others alone. -/
@[simp] theorem toList_push (name : String) (node : Node) (entries : Entries) :
    (entries.push name node).toList = entries.toList ++ [(name, node)] := by
  induction entries with
  | nil => simp [push, toList]
  | file n stamps text rest ih => simp [push, toList, ih]
  | dir n stamps inside rest _ ih => simp [push, toList, ih]

/-- Looking a child up is looking its name up in the list of children. -/
theorem find?_eq_lookup (name : String) (entries : Entries) :
    entries.find? name = (entries.toList.find? (fun child => child.1 = name)).map Prod.snd := by
  induction entries with
  | nil => rfl
  | file n stamps text rest ih =>
    by_cases h : n = name <;> simp [find?, toList, h, ih]
  | dir n stamps inside rest _ ih =>
    by_cases h : n = name <;> simp [find?, toList, h, ih]

/-- Erasing takes the first child of the name out of the list of children. -/
theorem toList_erase (name : String) (entries : Entries) :
    (entries.erase name).toList = entries.toList.eraseP (fun child => child.1 = name) := by
  induction entries with
  | nil => rfl
  | file n stamps text rest ih =>
    by_cases h : n = name <;> simp [erase, toList, h, ih]
  | dir n stamps inside rest _ ih =>
    by_cases h : n = name <;> simp [erase, toList, h, ih]

/-- Replacing a child keeps the names of all children and their order. -/
theorem names_replace (name : String) (node : Node) (entries : Entries) :
    (entries.replace name node).names = entries.names := by
  induction entries with
  | nil => rfl
  | file n stamps text rest ih =>
    by_cases h : n = name
    · cases node <;> simp [replace, names, toList, cons, h]
    · simp only [names] at ih
      simp [replace, names, toList, h, ih]
  | dir n stamps inside rest _ ih =>
    by_cases h : n = name
    · cases node <;> simp [replace, names, toList, cons, h]
    · simp only [names] at ih
      simp [replace, names, toList, h, ih]

/-- Putting a child in its own place changes nothing. -/
theorem replace_of_find? {name : String} {node : Node} {entries : Entries}
    (h : entries.find? name = some node) : entries.replace name node = entries := by
  induction entries with
  | nil => rfl
  | file n stamps text rest ih =>
    by_cases hn : n = name
    · simp only [find?, hn, if_true, Option.some.injEq] at h
      simp [replace, hn, ← h, cons]
    · simp only [find?, hn, if_false] at h
      simp [replace, hn, ih h]
  | dir n stamps inside rest _ ih =>
    by_cases hn : n = name
    · simp only [find?, hn, if_true, Option.some.injEq] at h
      simp [replace, hn, ← h, cons]
    · simp only [find?, hn, if_false] at h
      simp [replace, hn, ih h]

/-- Every file and directory at or below the children of the directory at `top`: each directory
before what is inside it, and all of that before the next child. -/
def walk (top : Path) : Entries → List (Path × Node)
  | nil => []
  | file name stamps text rest => (top ++ [name], .file stamps text) :: rest.walk top
  | dir name stamps inside rest =>
    (top ++ [name], .dir stamps inside) :: (inside.walk (top ++ [name]) ++ rest.walk top)

/-- The files among the children of the directory at `top`, with those further below if `deep`
holds, in the order of `walk`. -/
def files (deep : Bool) (top : Path) : Entries → List (Path × String)
  | nil => []
  | file name _ text rest => (top ++ [name], text) :: rest.files deep top
  | dir name _ inside rest =>
    (if deep then inside.files deep (top ++ [name]) else []) ++ rest.files deep top

/-- The same entries as if all of them were made now. -/
def renewed (now : Nat) : Entries → Entries
  | nil => nil
  | file name _ text rest => file name (.fresh now) text (rest.renewed now)
  | dir name _ inside rest => dir name (.fresh now) (inside.renewed now) (rest.renewed now)

end Entries

namespace Node

/-- When the node was made and last changed. -/
def stamps : Node → Stamps
  | file stamps _ => stamps
  | dir stamps _ => stamps

/-- Whether the node is a directory. -/
def isDir : Node → Bool
  | dir .. => true
  | file .. => false

/-- The node at a path below a node, if there is one. -/
def at? : Path → Node → Option Node
  | [], node => some node
  | _ :: _, file .. => none
  | name :: rest, dir _ inside => (inside.find? name).bind (at? rest)

/-- Changes the node at a path below a node. Without a node there, nothing changes. -/
def amend (change : Node → Node) : Path → Node → Node
  | [], node => change node
  | _ :: _, file stamps text => file stamps text
  | name :: rest, dir stamps inside =>
    match inside.find? name with
    | none => dir stamps inside
    | some child => dir stamps (inside.replace name (amend change rest child))

/-- The node as changed now. -/
def touched (now : Nat) : Node → Node
  | file stamps text => file (stamps.touched now) text
  | dir stamps inside => dir (stamps.touched now) inside

/-- A directory with other children, changed now. A file stays as it is. -/
def relisted (now : Nat) (change : Entries → Entries) : Node → Node
  | dir stamps inside => dir (stamps.touched now) (change inside)
  | file stamps text => file stamps text

/-- A file with another text, changed now. A directory stays as it is. -/
def withText (now : Nat) (text : String) : Node → Node
  | file stamps _ => file (stamps.touched now) text
  | dir stamps inside => dir stamps inside

/-- The same node as if it and all below it were made now. -/
def renewed (now : Nat) : Node → Node
  | file _ text => file (.fresh now) text
  | dir _ inside => dir (.fresh now) (inside.renewed now)

/-- The node and everything below it, each with its path. -/
def walk (top : Path) : Node → List (Path × Node)
  | file stamps text => [(top, file stamps text)]
  | dir stamps inside => (top, dir stamps inside) :: inside.walk top

end Node

end Shellbox
