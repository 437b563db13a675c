import Mathlib.Data.List.Basic
import Shellbox.Proofs.Opening
/-!
# Writing a file

`ensureFile` opens the directory of a path and sees to it that there is a file under the last name;
`touch` and `writeFile` go on from there with a change that cannot fail. So all three fail without a
trace, and with missing directories to be made a file can be written exactly at the paths that
`FileTree.Writable` describes: the path holds no directory, and no file stands on the way to it.

`content?_after_touch` and `content?_after_writeFile` are the effect of a success on the whole map: the
path holds a file with the old text or the new one, a missing prefix of the path holds a directory, and
nothing else has changed.
-/

namespace Shellbox

theorem Path.split?_append (parent : Path) (name : String) :
    split? (parent ++ [name]) = some (parent, name) := by
  simp [split?]

/-- A file can be written at the path if it holds no directory and no file stands on the way. -/
def FileTree.Writable (tree : FileTree) (path : Path) : Prop :=
  tree.content? path ≠ some .dir ∧
    ∀ front, front <+: path → ∀ text, tree.content? front = some (.file text) → front = path

/-- A file can be written under a name if there is no directory of that name and no file on the way
to the directory that is to hold it. -/
theorem FileTree.writable_append_iff {tree : FileTree} {parent : Path} {name : String} :
    tree.Writable (parent ++ [name]) ↔
      tree.content? (parent ++ [name]) ≠ some .dir ∧
        ∀ front, front <+: parent → ∀ text, tree.content? front ≠ some (.file text) := by
  refine and_congr_right fun _ =>
    ⟨fun h front hfront text hfile => ?_, fun h front hfront text hfile => ?_⟩
  · have hwhole := h front (hfront.trans (List.prefix_append ..)) text hfile
    have hlength := hfront.length_le
    rw [hwhole, List.length_append, List.length_singleton] at hlength
    omega
  · rcases List.prefix_concat_iff.1 hfront with hwhole | hfront
    · exact hwhole
    · exact absurd hfile (h front hfront text)

namespace Edit

variable {now : Nat} {parents : Bool} {parent path : Path} {name text : String} {tree : FileTree}

theorem openParent_append :
    openParent now parents (parent ++ [name]) =
      openDir now parents parent >>= fun inside => pure (parent, name, inside) := by
  unfold openParent
  rw [Path.split?_append]

/-- What `ensureFile` does when the directory of the path is open. -/
def ensureIn (now : Nat) (parent : Path) (name : String) (inside : Entries) : Edit Unit :=
  match inside.find? name with
  | some (.file ..) => return
  | some (.dir ..) => throw (.isADirectory (parent ++ [name]))
  | none => addChild now parent name (.file (.fresh now) "")

theorem ensureFile_nil : ensureFile now parents [] = throw .rootAsTarget := rfl

theorem ensureFile_append :
    ensureFile now parents (parent ++ [name]) =
      openDir now parents parent >>= ensureIn now parent name := by
  unfold ensureFile
  rw [openParent_append, bind_assoc]
  simp only [pure_bind]
  rfl

/-- A directory that was opened takes a child of every name that it does not have. -/
theorem outcome_addChild_after_openDir {inside : Entries} (node : Node)
    (hopen : (openDir now parents parent).outcome tree = .ok inside)
    (hfree : inside.find? name = none) :
    (addChild now parent name node).outcome ((openDir now parents parent).after tree) = .ok () := by
  have hdir := directory_after_openDir hopen
  rw [outcome_addChild_eq_ok_iff, FileTree.content?_child hdir, hfree]
  exact ⟨FileTree.directory_ok_iff_content?.1 ⟨inside, hdir⟩, rfl⟩

/-- What a path held in a directory that was opened, before it was opened. -/
theorem content?_of_openDir {inside : Entries}
    (hopen : (openDir now parents parent).outcome tree = .ok inside) (name : String) :
    tree.content? (parent ++ [name]) = (inside.find? name).map Node.content := by
  rcases after_openDir_of_ok hopen with hsame | ⟨hmissing, rfl⟩
  · have hdir := directory_after_openDir hopen
    rw [hsame] at hdir
    exact FileTree.content?_child hdir name
  · exact FileTree.content?_append_eq_none (by simp [hmissing]) (List.cons_ne_nil name [])

/-- In a directory that was opened, only a directory of the same name is in the way of a file. -/
theorem outcome_ensureIn {inside : Entries}
    (hopen : (openDir now parents parent).outcome tree = .ok inside) :
    (ensureIn now parent name inside).outcome ((openDir now parents parent).after tree) =
      if tree.content? (parent ++ [name]) ≠ some .dir then .ok ()
      else .error (.isADirectory (parent ++ [name])) := by
  unfold ensureIn
  rw [content?_of_openDir hopen]
  cases hname : inside.find? name with
  | none => simp [outcome_addChild_after_openDir (.file (.fresh now) "") hopen hname]
  | some child => cases child <;> simp [Node.content]

/-- A file is seen to exactly if the directory of its path can be opened and there is no directory at
the path. -/
theorem outcome_ensureFile_append :
    (ensureFile now parents (parent ++ [name])).outcome tree =
      match (openDir now parents parent).outcome tree with
      | .error fault => .error fault
      | .ok _ =>
        if tree.content? (parent ++ [name]) ≠ some .dir then .ok ()
        else .error (.isADirectory (parent ++ [name])) := by
  rw [ensureFile_append, outcome_bind]
  cases hopen : (openDir now parents parent).outcome tree with
  | error fault => rfl
  | ok inside => exact outcome_ensureIn hopen

/-- A directory that was made and has children was not made. -/
theorem after_openDir_of_find? {inside : Entries} {child : Node}
    (hopen : (openDir now parents parent).outcome tree = .ok inside)
    (hname : inside.find? name = some child) : (openDir now parents parent).after tree = tree := by
  rcases after_openDir_of_ok hopen with hsame | ⟨-, rfl⟩
  · exact hsame
  · cases hname

theorem Atomic.ensureFile : Atomic (ensureFile now parents path) := by
  rcases List.eq_nil_or_concat' path with rfl | ⟨parent, name, rfl⟩
  · exact Atomic.throw _
  · rw [ensureFile_append]
    refine Atomic.bind Atomic.openDir fun tree inside fault hopen herror => ?_
    unfold ensureIn at herror ⊢
    cases hname : inside.find? name with
    | none =>
      rw [hname] at herror
      simp only at herror
      rw [outcome_addChild_after_openDir _ hopen hname] at herror
      cases herror
    | some child =>
      rw [hname] at herror
      cases child with
      | file stamps text => cases herror
      | dir stamps more => exact after_openDir_of_find? hopen hname

/-- With missing directories to be made, there can be a file exactly at a writable path. -/
theorem outcome_ensureFile_eq_ok_iff :
    (ensureFile now true path).outcome tree = .ok () ↔ tree.Writable path := by
  rcases List.eq_nil_or_concat' path with rfl | ⟨parent, name, rfl⟩
  · rw [ensureFile_nil]
    simp [FileTree.Writable]
  · have hopens := @exists_outcome_openDir_eq_ok_iff now parent tree
    rw [outcome_ensureFile_append, FileTree.writable_append_iff, ← hopens]
    cases (openDir now true parent).outcome tree with
    | error fault => simp
    | ok inside => simp

/-- A file is never seen to where there is a directory. -/
theorem content?_ne_dir_of_ensureFile (h : (ensureFile now parents path).outcome tree = .ok ()) :
    tree.content? path ≠ some .dir := by
  rcases List.eq_nil_or_concat' path with rfl | ⟨parent, name, rfl⟩
  · cases h
  · rw [outcome_ensureFile_append] at h
    intro hdir
    cases hopen : (openDir now parents parent).outcome tree <;> simp [hopen, hdir] at h

/-- A node with nothing below it that is added to a directory that was opened: the path holds it, a
missing prefix of the path a directory, and all else is as before. -/
theorem content?_after_addLeaf {inside : Entries} {node : Node}
    (hopen : (openDir now parents parent).outcome tree = .ok inside)
    (hname : inside.find? name = none) (hleaf : ∀ first rest, node.at? (first :: rest) = none)
    (other : Path) :
    ((addChild now parent name node).after ((openDir now parents parent).after tree)).content? other =
      (tree.content? other).or
        (if other = parent ++ [name] then some node.content
          else if other <+: parent ++ [name] then some .dir else none) := by
  have hadd := outcome_addChild_after_openDir node hopen hname
  obtain ⟨hdir, hfree⟩ := outcome_addChild_eq_ok_iff.1 hadd
  have hbefore := content?_of_openDir hopen name
  rw [hname] at hbefore
  rw [after_addChild_of_ok hadd, FileTree.content?_push_leaf now hleaf hdir hfree,
    content?_after_openDir hopen]
  by_cases hother : other = parent ++ [name]
  · subst hother
    rw [hbefore]
    simp
  · simp [hother, List.prefix_concat_iff]

/-- After a file was seen to, the path holds a file, a missing prefix of it a directory, and all else
is as before. -/
theorem content?_after_ensureFile (h : (ensureFile now parents path).outcome tree = .ok ())
    (other : Path) :
    ((ensureFile now parents path).after tree).content? other =
      (tree.content? other).or
        (if other = path then some (.file "") else if other <+: path then some .dir else none) := by
  have hfits := content?_ne_dir_of_ensureFile h
  rcases List.eq_nil_or_concat' path with rfl | ⟨parent, name, rfl⟩
  · cases h
  rw [outcome_ensureFile_append] at h
  rw [ensureFile_append, after_bind]
  cases hopen : (openDir now parents parent).outcome tree with
  | error fault => rw [hopen] at h; cases h
  | ok inside =>
    have hbefore := content?_of_openDir hopen name
    have hway : other <+: parent ++ [name] ↔ other = parent ++ [name] ∨ other <+: parent :=
      List.prefix_concat_iff
    simp only
    unfold ensureIn
    cases hname : inside.find? name with
    | none => exact content?_after_addLeaf hopen hname (fun _ _ => rfl) other
    | some child =>
      rw [hname] at hbefore
      cases child with
      | dir stamps more => exact absurd hbefore hfits
      | file stamps text =>
        simp only [after_pure]
        rw [content?_after_openDir hopen]
        by_cases hother : other = parent ++ [name]
        · subst hother
          rw [hbefore]
          rfl
        · simp [hother, hway]

/-- A file that was seen to is there. -/
theorem exists_file_of_ensureFile (h : (ensureFile now parents path).outcome tree = .ok ()) :
    ∃ text, ((ensureFile now parents path).after tree).content? path = some (.file text) := by
  rw [content?_after_ensureFile h, if_pos rfl]
  cases hpath : tree.content? path with
  | none => exact ⟨"", rfl⟩
  | some held =>
    cases held with
    | dir => exact absurd hpath (content?_ne_dir_of_ensureFile h)
    | file text => exact ⟨text, rfl⟩

/-! ### Touching and writing

Both see to a file and then change it, which cannot fail. -/

section Changing

variable (change : Node → Node)

theorem outcome_changeFile :
    (do ensureFile now parents path; amend path change; return path : Edit Path).outcome tree =
      ((ensureFile now parents path).outcome tree).map fun _ => path := by
  rw [outcome_bind]
  cases (ensureFile now parents path).outcome tree <;> rfl

theorem after_changeFile_of_ok (h : (ensureFile now parents path).outcome tree = .ok ()) :
    (do ensureFile now parents path; amend path change; return path : Edit Path).after tree =
      ((ensureFile now parents path).after tree).amend path change := by
  rw [after_bind, h]
  rfl

theorem Atomic.changeFile :
    Atomic (do Edit.ensureFile now parents path; amend path change; return path) :=
  Atomic.bind_sure Atomic.ensureFile fun _ _ _ => ⟨path, rfl⟩

end Changing

theorem Atomic.touch : Atomic (touch now path) := Atomic.changeFile _

theorem Atomic.writeFile : Atomic (writeFile now path text parents) := Atomic.changeFile _

theorem outcome_touch :
    (touch now path).outcome tree = ((ensureFile now false path).outcome tree).map fun _ => path :=
  outcome_changeFile _

theorem outcome_writeFile :
    (writeFile now path text parents).outcome tree =
      ((ensureFile now parents path).outcome tree).map fun _ => path :=
  outcome_changeFile _

theorem outcome_touch_eq_ok_iff :
    (touch now path).outcome tree = .ok path ↔ (ensureFile now false path).outcome tree = .ok () := by
  rw [outcome_touch]
  cases (ensureFile now false path).outcome tree <;> simp [Except.map]

theorem outcome_writeFile_eq_ok_iff :
    (writeFile now path text parents).outcome tree = .ok path ↔
      (ensureFile now parents path).outcome tree = .ok () := by
  rw [outcome_writeFile]
  cases (ensureFile now parents path).outcome tree <;> simp [Except.map]

/-- After a file was touched, the path holds what it held or an empty file, a missing prefix of it a
directory, and all else is as before. -/
theorem content?_after_touch (h : (touch now path).outcome tree = .ok path) (other : Path) :
    ((touch now path).after tree).content? other =
      if other = path then some ((tree.content? path).getD (.file ""))
      else (tree.content? other).or (if other <+: path then some .dir else none) := by
  rw [outcome_touch_eq_ok_iff] at h
  have hafter : (touch now path).after tree =
      ((ensureFile now false path).after tree).amend path (.touched now) :=
    after_changeFile_of_ok _ h
  rw [hafter, FileTree.content?_amend_touched, content?_after_ensureFile h]
  by_cases hother : other = path
  · subst hother
    cases tree.content? other <;> simp
  · simp only [if_neg hother]

/-- After a file was written, the path holds its text, a missing prefix of it a directory, and all
else is as before. -/
theorem content?_after_writeFile (h : (writeFile now path text parents).outcome tree = .ok path)
    (other : Path) :
    ((writeFile now path text parents).after tree).content? other =
      if other = path then some (.file text)
      else (tree.content? other).or (if other <+: path then some .dir else none) := by
  rw [outcome_writeFile_eq_ok_iff] at h
  have hcontent := content?_after_ensureFile h
  have hafter : (writeFile now path text parents).after tree =
      ((ensureFile now parents path).after tree).amend path (.withText now text) :=
    after_changeFile_of_ok _ h
  obtain ⟨old, hold⟩ := exists_file_of_ensureFile h
  rw [hafter, FileTree.content?_amend_withText now text hold, hcontent]
  by_cases hother : other = path <;> simp [hother]

end Edit
end Shellbox
