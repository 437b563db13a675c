import Shellbox.Proofs.Creation
import Shellbox.Proofs.DeepCopy
/-!
# A directory made by any clock

Trees that differ in nothing but time hold the same at every path (`FileTree.content?_congr`), and the
walk that makes missing directories goes the same way in both, for it commutes with forgetting the
stamps (`Node.openDir_renewed`). So `mkdir` ends in the same way in both, by any two clocks, and leaves
trees that again differ in nothing but time (`Edit.outcome_mkdir_congr`, `Edit.timeless_mkdir_congr`).
-/

namespace Shellbox

namespace Node

/-- A walk to a directory, with all stamps forgotten before or afterwards. -/
theorem openDir_renewed (now : Nat) (make : Bool) (seen path : Path) (node : Node) :
    (node.renewed 0).openDir 0 make seen path =
      ((node.openDir now make seen path).1.map (Entries.renewed 0),
        (node.openDir now make seen path).2.renewed 0) := by
  induction path generalizing node seen with
  | nil => cases node <;> rfl
  | cons name rest ih =>
    cases node with
    | file stamps text => rw [openDir_file]; exact openDir_file ..
    | dir stamps inside =>
      have hfind := Entries.find?_renewed 0 name inside
      rw [renewed_dir]
      cases hname : inside.find? name with
      | some child =>
        rw [hname, Option.map_some] at hfind
        rw [openDir_cons_some hname, openDir_cons_some hfind, renewed_dir, Entries.renewed_replace, ih]
      | none =>
        rw [hname, Option.map_none] at hfind
        cases make with
        | false => rw [openDir_cons_none hname, openDir_cons_none hfind, renewed_dir]; rfl
        | true =>
          have hmade := ih (seen ++ [name]) (dir (.fresh now) .nil)
          rw [openDir_cons_none_make hname, openDir_cons_none_make hfind, renewed_dir,
            Entries.renewed_push, ← (Prod.mk.inj hmade).1, ← (Prod.mk.inj hmade).2]
          rfl

end Node

namespace FileTree

variable {first second : FileTree}

/-- What a path holds shows in the tree without its stamps. -/
theorem content?_eq_timeless (tree : FileTree) (path : Path) :
    tree.content? path = (tree.timeless.at? path).map Node.content := by
  rw [timeless, Node.at?_renewed, Option.map_map]
  exact congrArg (Option.map · (tree.at? path)) (funext (Node.content_renewed 0)).symm

theorem content?_congr (h : first.timeless = second.timeless) (path : Path) :
    first.content? path = second.content? path := by
  rw [content?_eq_timeless, h, content?_eq_timeless]

end FileTree

namespace Edit

variable {now later : Nat} {make parents : Bool} {path parent : Path} {name : String}
  {first second tree : FileTree}

/-- The directory that is opened in a tree, with all stamps forgotten, is that of the tree without
stamps. -/
theorem timeless_openDir (now : Nat) (make : Bool) (path : Path) (tree : FileTree) :
    tree.timeless.openDir 0 make [] path =
      (((openDir now make path).outcome tree).map (Entries.renewed 0),
        ((openDir now make path).after tree).timeless) := by
  rw [FileTree.timeless, Node.openDir_renewed now, outcome_openDir, FileTree.timeless,
    root_after_openDir]

/-- `mkdir` ends in the same way in trees that differ in nothing but time. -/
theorem outcome_mkdir_congr (hpath : ∀ name ∈ path, isName name)
    (h : first.timeless = second.timeless) (now later : Nat) :
    (mkdir now path parents false).outcome first =
      (mkdir later path parents false).outcome second := by
  rcases List.eq_nil_or_concat' path with rfl | ⟨parent, name, rfl⟩
  · rfl
  · have hname : isName name := hpath name List.mem_concat_self
    have hopen := timeless_openDir now parents parent first
    rw [h, timeless_openDir later parents parent second, Prod.mk.injEq] at hopen
    obtain ⟨houtcome, -⟩ := hopen
    rw [outcome_mkdir_append hname, outcome_mkdir_append hname, FileTree.content?_congr h]
    cases hfirst : (openDir now parents parent).outcome first with
    | error fault =>
      cases hsecond : (openDir later parents parent).outcome second with
      | error fault' => rw [hfirst, hsecond] at houtcome; cases houtcome; rfl
      | ok inside => rw [hfirst, hsecond] at houtcome; cases houtcome
    | ok inside =>
      cases hsecond : (openDir later parents parent).outcome second with
      | error fault => rw [hfirst, hsecond] at houtcome; cases houtcome
      | ok inside' => rfl

/-- A directory that could be made was pushed into the one that the walk opened. -/
theorem timeless_after_mkdir_of_ok (hname : isName name)
    (h : (mkdir now (parent ++ [name]) parents false).outcome tree = .ok (parent ++ [name])) :
    ((mkdir now (parent ++ [name]) parents false).after tree).timeless =
      (tree.timeless.openDir 0 parents [] parent).2.amend
        (.relisted 0 (·.push name (.dir (.fresh 0) .nil))) parent := by
  obtain ⟨inside, hopen, hfree⟩ := opened_of_mkdir hname h
  have hadd := outcome_addChild_after_openDir (.dir (.fresh now) .nil) hopen hfree
  rw [after_mkdir_of_ok hname h, after_addChild_of_ok hadd, timeless_openDir now parents parent tree,
    FileTree.timeless_amend_relisted (Entries.renewed_push 0 name _)]
  rfl

/-- `mkdir` leaves trees that differ in nothing but time, if they did so before. -/
theorem timeless_mkdir_congr (hpath : ∀ name ∈ path, isName name)
    (h : first.timeless = second.timeless) (now later : Nat) :
    ((mkdir now path parents false).after first).timeless =
      ((mkdir later path parents false).after second).timeless := by
  have hcongr : (mkdir now path parents false).outcome first =
      (mkdir later path parents false).outcome second := outcome_mkdir_congr hpath h now later
  cases houtcome : (mkdir now path parents false).outcome first with
  | error fault =>
    rw [Atomic.mkdir hpath first fault houtcome,
      Atomic.mkdir hpath second fault (hcongr.symm.trans houtcome), h]
  | ok made =>
    rcases List.eq_nil_or_concat' path with rfl | ⟨parent, name, rfl⟩
    · cases houtcome
    · have hname : isName name := hpath name List.mem_concat_self
      obtain rfl := eq_of_outcome_mkdir hname houtcome
      rw [timeless_after_mkdir_of_ok hname houtcome,
        timeless_after_mkdir_of_ok hname (hcongr.symm.trans houtcome), h]

end Edit
end Shellbox
