import Shellbox.FileTree.Operation
import Shellbox.Proofs.Upload
/-!
# The walks along a path agree

A path is walked in four ways: to the node at its end (`resolve`), to the directory at its end
(`openDir`), to the directory above it and then to a file of the last name (`fileText`,
`writeFile`), and to the first obstacle to an upload (`checkUpload`). They stop at different places,
and the third makes what is missing if it is to write.

The first walk decides all of them. Opening a directory that has to be there comes to what the node
at the end of the path is as a directory (`Node.openDir_false_eq`), and reading a file to what it is
as a file (`FileTree.fileText_append`): the name behind the directory is one more step of the same
walk (`Node.descend_append`). The check before an upload and the writing after it meet the same
obstacle or none (`Edit.outcome_checkUpload`), since nothing stands below a directory that had to be
made.
-/

namespace Shellbox

namespace Node

variable {path : Path}

/-- A node that stands at a path, as a directory. -/
def asDirectory (path : Path) : Node → Except Fault Entries
  | dir _ inside => .ok inside
  | file .. => .error (.notADirectory path)

/-- A node that stands at a path, as a file. -/
def asFile (path : Path) : Node → Except Fault String
  | file _ text => .ok text
  | dir .. => .error (.isADirectory path)

section Kinds

variable {found : Except Fault Node}

theorem bind_asDirectory_eq_ok_iff {inside : Entries} :
    found.bind (asDirectory path) = .ok inside ↔ ∃ stamps, found = .ok (dir stamps inside) := by
  cases found with
  | error fault => simp [Except.bind]
  | ok node => cases node <;> simp [Except.bind, asDirectory]

theorem bind_asFile_eq_ok_iff {text : String} :
    found.bind (asFile path) = .ok text ↔ ∃ stamps, found = .ok (file stamps text) := by
  cases found with
  | error fault => simp [Except.bind]
  | ok node => cases node <;> simp [Except.bind, asFile]

/-- Only a directory is refused as one, if it was not refused before. -/
theorem bind_asFile_eq_isADirectory_iff {other : Path}
    (h : found ≠ .error (.isADirectory other)) :
    found.bind (asFile path) = .error (.isADirectory other) ↔
      other = path ∧ ∃ stamps inside, found = .ok (dir stamps inside) := by
  cases found with
  | error fault => simpa [Except.bind] using h
  | ok node => cases node <;> simp [Except.bind, asFile, eq_comm]

end Kinds

theorem descend_cons_dir (seen : Path) (name : String) (rest : Path) (stamps : Stamps)
    (inside : Entries) :
    (dir stamps inside).descend seen (name :: rest) =
      match inside.find? name with
      | none => .error (.missing (seen ++ [name]))
      | some child => child.descend (seen ++ [name]) rest := rfl

/-- A walk along a longer path goes on from where the shorter one leads. -/
theorem descend_append (seen front rest : Path) (node : Node) :
    node.descend seen (front ++ rest) =
      (node.descend seen front).bind fun found => found.descend (seen ++ front) rest := by
  induction front generalizing seen node with
  | nil => rw [List.nil_append, List.append_nil]; rfl
  | cons name front ih =>
    cases node with
    | file stamps text => rfl
    | dir stamps inside =>
      rw [List.cons_append, descend_cons_dir, descend_cons_dir]
      cases inside.find? name with
      | none => rfl
      | some child =>
        dsimp only
        rw [ih, List.append_assoc, List.singleton_append]

/-- A walk to a node fails at a file on the way or at what is missing, never at a directory. -/
theorem descend_ne_isADirectory (seen path other : Path) (node : Node) :
    node.descend seen path ≠ .error (.isADirectory other) := by
  induction path generalizing seen node with
  | nil => exact fun h => by cases h
  | cons name rest ih =>
    cases node with
    | file stamps text => exact fun h => by cases h
    | dir stamps inside =>
      rw [descend_cons_dir]
      cases inside.find? name with
      | none => exact fun h => by cases h
      | some child => exact ih (seen ++ [name]) child

/-- Opening a directory that has to be there is walking to the node at the end of the path, which
then has to be one. -/
theorem openDir_false_eq (now : Nat) (seen path : Path) (node : Node) :
    (node.openDir now false seen path).1 =
      (node.descend seen path).bind (asDirectory (seen ++ path)) := by
  induction path generalizing seen node with
  | nil =>
    rw [List.append_nil]
    cases node <;> rfl
  | cons name rest ih =>
    cases node with
    | file stamps text => rw [openDir_file]; rfl
    | dir stamps inside =>
      rw [descend_cons_dir]
      cases hname : inside.find? name with
      | none => rw [openDir_cons_none hname]; rfl
      | some child =>
        rw [openDir_cons_some hname]
        dsimp only
        rw [ih, List.append_assoc, List.singleton_append]

/-- The first obstacle to an upload is what stops the opening of the directory above, made where it
is missing, or else a directory at the end of the path. -/
theorem uploadObstacle_append (now : Nat) (seen parent : Path) (name : String) (node : Node) :
    Edit.uploadObstacle seen (parent ++ [name]) node =
      match (node.openDir now true seen parent).1 with
      | .error fault => some fault
      | .ok _ =>
        if (node.at? (parent ++ [name])).map content ≠ some .dir then none
        else some (.isADirectory (seen ++ (parent ++ [name]))) := by
  induction parent generalizing seen node with
  | nil =>
    cases node with
    | file stamps text => rfl
    | dir stamps inside =>
      rw [List.nil_append, Edit.uploadObstacle, at?_cons_dir, openDir]
      cases inside.find? name with
      | none => rfl
      | some child => cases child <;> rfl
  | cons first rest ih =>
    cases node with
    | file stamps text => rw [openDir_file]; rfl
    | dir stamps inside =>
      rw [List.cons_append, Edit.uploadObstacle, at?_cons_dir]
      cases hfirst : inside.find? first with
      | none =>
        rw [openDir_cons_none_make hfirst, openDir_empty]
        rfl
      | some child =>
        rw [openDir_cons_some hfirst]
        dsimp only
        rw [ih, List.append_assoc, List.singleton_append]
        rfl

end Node

namespace FileTree

theorem directory_eq (tree : FileTree) (path : Path) :
    tree.directory path = (tree.resolve path).bind (Node.asDirectory path) := by
  unfold directory
  cases tree.resolve path with
  | error fault => rfl
  | ok node => cases node <;> rfl

/-- The text of a file is that of the node at the end of its path, which has to be a file. -/
theorem fileText_append (tree : FileTree) (parent : Path) (name : String) :
    tree.fileText (parent ++ [name]) =
      (tree.resolve (parent ++ [name])).bind (Node.asFile (parent ++ [name])) := by
  have hresolve : tree.resolve (parent ++ [name]) =
      (tree.resolve parent).bind fun found => found.descend parent [name] :=
    Node.descend_append [] parent [name] tree.root
  unfold fileText
  rw [Path.split?_append, hresolve]
  dsimp only
  rw [directory_eq]
  cases tree.resolve parent with
  | error fault => rfl
  | ok node =>
    cases node with
    | file stamps text => rfl
    | dir stamps inside =>
      rw [Except.bind, Except.bind, Node.descend_cons_dir]
      dsimp only [Node.asDirectory, bind, Except.bind]
      cases inside.find? name with
      | none => rfl
      | some child => cases child <;> rfl

end FileTree

namespace Edit

/-- A directory that has to be there is what the path resolves to, as a directory. -/
theorem outcome_openDir_false (now : Nat) (path : Path) (tree : FileTree) :
    (openDir now false path).outcome tree = (tree.resolve path).bind (Node.asDirectory path) := by
  rw [outcome_openDir, Node.openDir_false_eq, List.nil_append]
  rfl

/-- Nothing is made on the way to a directory that has to be there. -/
theorem after_openDir_false (now : Nat) (path : Path) (tree : FileTree) :
    (openDir now false path).after tree = tree := by
  cases hopen : (openDir now false path).outcome tree with
  | error fault => exact Atomic.openDir tree fault hopen
  | ok opened =>
    rcases after_openDir_of_ok hopen with hsame | ⟨hmissing, -⟩
    · exact hsame
    · rw [exists_outcome_openDir_false_iff.1 ⟨opened, hopen⟩] at hmissing
      cases hmissing

/-- The check before an upload comes to what seeing to the file comes to. -/
theorem outcome_checkUpload (now : Nat) (path : Path) (tree : FileTree) :
    (checkUpload path).outcome tree = (ensureFile now true path).outcome tree := by
  rw [checkUpload_eq_ask, outcome_ask]
  rcases List.eq_nil_or_concat' path with rfl | ⟨parent, name, rfl⟩
  · rfl
  · have hempty : (parent ++ [name]).isEmpty = false := by simp
    rw [hempty, if_neg Bool.false_ne_true, outcome_ensureFile_append, outcome_openDir,
      Node.uploadObstacle_append now, List.nil_append]
    cases (tree.root.openDir now true [] parent).1 with
    | error fault => rfl
    | ok inside =>
      dsimp only
      rw [FileTree.content?, FileTree.at?_eq_root]
      split_ifs <;> rfl

/-- What is checked before an upload fails exactly as the writing does. -/
theorem outcome_checkUpload_eq_error_iff (now : Nat) (path : Path) (text : String)
    (tree : FileTree) (fault : Fault) :
    (checkUpload path).outcome tree = .error fault ↔
      (writeFile now path text true).outcome tree = .error fault := by
  rw [outcome_checkUpload now, outcome_writeFile]
  cases (ensureFile now true path).outcome tree with
  | error cause => simp only [Except.map, Except.error.injEq]
  | ok value => simp only [Except.map, reduceCtorEq]

end Edit

namespace FileTree

/-- The walks along a path agree on a tree: on what is there, and where it is not what is wanted, on
the fault that says so. -/
structure WalksAgree (tree : FileTree) (now : Nat) (path : Path) : Prop where
  /-- The directory that is opened is the one at the end of the path. -/
  opens_iff : ∀ inside, (Edit.openDir now false path).outcome tree = .ok inside ↔
    ∃ stamps, tree.resolve path = .ok (.dir stamps inside)
  /-- A file at the end of the path is not opened. -/
  opens_of_file : ∀ stamps text, tree.resolve path = .ok (.file stamps text) →
    (Edit.openDir now false path).outcome tree = .error (.notADirectory path)
  /-- Without anything there, opening fails as looking does. -/
  opens_of_error : ∀ fault, tree.resolve path = .error fault →
    (Edit.openDir now false path).outcome tree = .error fault
  /-- Opening without making leaves the tree as it is. -/
  opens_quietly : (Edit.openDir now false path).after tree = tree
  /-- Asking for the children of a directory comes to what opening it comes to. -/
  lists_eq : tree.directory path = (Edit.openDir now false path).outcome tree
  /-- The text that is read is that of the file at the end of the path. -/
  reads_iff : path ≠ [] → ∀ text, tree.fileText path = .ok text ↔
    ∃ stamps, tree.resolve path = .ok (.file stamps text)
  /-- Reading fails with a directory exactly if there is one, and names its path. -/
  reads_isADirectory_iff : path ≠ [] → ∀ other,
    tree.fileText path = .error (.isADirectory other) ↔
      other = path ∧ ∃ stamps inside, tree.resolve path = .ok (.dir stamps inside)
  /-- Without anything there, reading fails as looking does. -/
  reads_of_error : path ≠ [] → ∀ fault, tree.resolve path = .error fault →
    tree.fileText path = .error fault
  /-- The check before an upload fails exactly as the writing does, whatever is to be written. -/
  checks_iff : ∀ text fault, (Edit.checkUpload path).outcome tree = .error fault ↔
    (Edit.writeFile now path text true).outcome tree = .error fault

/-- **The walks along a path agree.** In every tree, and for every path text read in any working
directory, opening a directory and reading a file come to what the path resolves to, and a path is
refused before an upload exactly if it could not be written, with the same fault. -/
theorem walksAgree_read (tree : FileTree) (now : Nat) (cwd : String) (text : Option String) :
    tree.WalksAgree now (Path.read cwd text) := by
  set path := Path.read cwd text
  have hopen := Edit.outcome_openDir_false now path tree
  have hread : path ≠ [] →
      tree.fileText path = (tree.resolve path).bind (Node.asFile path) := fun hpath => by
    obtain ⟨parent, name, hsplit⟩ := (List.eq_nil_or_concat' path).resolve_left hpath
    rw [hsplit, fileText_append]
  exact {
    opens_iff := fun inside => by rw [hopen, Node.bind_asDirectory_eq_ok_iff]
    opens_of_file := fun stamps text hfile => by rw [hopen, hfile]; rfl
    opens_of_error := fun fault herror => by rw [hopen, herror]; rfl
    opens_quietly := Edit.after_openDir_false now path tree
    lists_eq := (directory_eq tree path).trans hopen.symm
    reads_iff := fun hpath text => by rw [hread hpath, Node.bind_asFile_eq_ok_iff]
    reads_isADirectory_iff := fun hpath other => by
      rw [hread hpath, Node.bind_asFile_eq_isADirectory_iff]
      exact Node.descend_ne_isADirectory [] path other tree.root
    reads_of_error := fun hpath fault herror => by rw [hread hpath, herror]; rfl
    checks_iff := fun text fault =>
      Edit.outcome_checkUpload_eq_error_iff now path text tree fault }

/-- Behind a file all the walks end at the file, also where missing directories would be made. -/
example :
    let tree : FileTree := ⟨.fresh 0, .file "f" (.fresh 0) "x" .nil⟩
    let path := ["f", "g", "h"]
    tree.resolve path = .error (.notADirectory ["f"]) ∧
      tree.fileText path = .error (.notADirectory ["f"]) ∧
        (Edit.openDir 1 false path).outcome tree = .error (.notADirectory ["f"]) ∧
          (Edit.checkUpload path).outcome tree = .error (.notADirectory ["f"]) :=
  ⟨rfl, rfl, rfl, rfl⟩

end FileTree
end Shellbox
