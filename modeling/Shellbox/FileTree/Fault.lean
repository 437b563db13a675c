import Shellbox.FileTree.Path
import Shellbox.Text.Quoted
/-!
# Why an operation on a file tree fails

Each constructor is one cause. `Fault.message` is its wording, which names a path by its text.
-/

namespace Shellbox

/-- The causes for which an operation on a file tree fails. -/
inductive Fault where
  /-- There is nothing at the path. -/
  | missing (path : Path)
  /-- There is something at the path already. -/
  | occupied (path : Path)
  /-- There is a file where a directory is needed. -/
  | notADirectory (path : Path)
  /-- There is a directory where a file is needed. -/
  | isADirectory (path : Path)
  /-- The directory to remove still has children. -/
  | notEmpty (path : Path)
  /-- The path is the root, where a name below it is needed. -/
  | rootAsTarget
  /-- The root is to be removed. -/
  | rootRemoval
  /-- The root is to be copied or moved. -/
  | rootTransfer
  /-- A directory is to be copied or moved to a place at or below itself. -/
  | insideItself (path : Path)
  /-- The name cannot be the name of a child. -/
  | badName (name : String)
  /-- The kind is neither a file nor a directory. -/
  | unknownKind (kind : String)
  /-- The node to remove or to move is in no directory. -/
  | parentless (deed : String)
  deriving DecidableEq, Repr

namespace Fault

/-- The wording of a cause. -/
def message : Fault → String
  | missing path => path.render ++ ": No such file or directory"
  | occupied path => path.render ++ ": File exists"
  | notADirectory path => path.render ++ ": Not a directory"
  | isADirectory path => path.render ++ ": Is a directory"
  | notEmpty path => path.render ++ ": Directory not empty"
  | rootAsTarget => "Operation not permitted on the root directory"
  | rootRemoval => "Cannot remove root directory"
  | rootTransfer => "Cannot copy or move the root directory"
  | insideItself path => "Cannot copy or move " ++ path.render ++ " inside itself"
  | badName name => "Invalid name: " ++ Text.quoted name
  | unknownKind kind => "Unknown node kind: " ++ kind
  | parentless deed => "Cannot " ++ deed ++ " node without parent"

end Fault

end Shellbox
