import Shellbox.FileTree.Edit
/-!
# Operations given by path texts

The changes that may be asked of a file tree, with every path as a text. A path text is read
from a working directory that comes with the request, since a file tree has none of its own.
-/

namespace Shellbox

/-- A change asked of a file tree. -/
inductive Operation where
  /-- Makes an empty node of a kind under a name in a directory. -/
  | create (parent name kind : String)
  /-- Makes a directory. -/
  | mkdir (path : String) (parents existOk : Bool)
  /-- Stamps a file or makes an empty one. -/
  | touch (path : String)
  /-- Gives a file its text. -/
  | writeFile (path text : String) (parents : Bool)
  /-- Writes a batch of files. -/
  | upload (files : List (String × String))
  /-- Takes a node out. -/
  | remove (path : String) (recursive : Bool)
  /-- Puts a copy of a node in another place. -/
  | copy (source target : String)
  /-- Puts a node in another place. -/
  | move (source target : String)
  deriving DecidableEq, Repr

namespace Operation

/-- Performs an operation in a working directory and gives the paths of the nodes that it
answers with. -/
def perform (now : Nat) (cwd : String) : Operation → Edit (List Path)
  | create parent name kind =>
    return [← Edit.create now (Path.read cwd parent) name kind]
  | mkdir path parents existOk =>
    return [← Edit.mkdir now (Path.read cwd path) parents existOk]
  | touch path => return [← Edit.touch now (Path.read cwd path)]
  | writeFile path text parents =>
    return [← Edit.writeFile now (Path.read cwd path) text parents]
  | upload files =>
    Edit.upload now (files.map fun (path, text) => (Path.read cwd path, text))
  | remove path recursive => do
    Edit.remove now (Path.read cwd path) recursive
    return []
  | copy source target =>
    return [← Edit.copy now (Path.read cwd source) (Path.read cwd target)]
  | move source target =>
    return [← Edit.move now (Path.read cwd source) (Path.read cwd target)]

end Operation

end Shellbox
