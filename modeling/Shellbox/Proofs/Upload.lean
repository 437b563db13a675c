import Shellbox.FileTree.Operation
import Shellbox.Proofs.Crossing
/-!
# When a failed upload leaves the tree alone

`upload` checks every path of its batch against the tree as it is, and then writes the files one
after the other, each into the tree that the ones before it left. The check refuses exactly the
paths that are not writable (`outcome_checkUpload_eq_ok_iff`) and knows nothing of the other files
of the batch. So a batch of writable paths that cross passes the check and then gets stuck half-way,
at the later of two paths that cross and with the earlier one in the tree.

There is no other way to get stuck: an upload that fails leaves the tree as it was unless all of its
paths could be written each alone and two of them cross (`Operation.after_upload_eq_iff`).
-/

namespace Shellbox

namespace Edit

variable {now : Nat} {path : Path} {files : List (Path × String)} {tree : FileTree}

/-! ### The check -/

/-- Checks paths one after the other. -/
def checkAll : List (Path × String) → Edit Unit
  | [] => return
  | (path, _) :: files => do
    checkUpload path
    checkAll files

theorem writeAll_eq_mapM (now : Nat) (files : List (Path × String)) :
    writeAll now files = files.mapM fun file => writeFile now file.1 file.2 true := by
  induction files with
  | nil => rfl
  | cons file files ih => rw [List.mapM_cons, ← ih]; rfl

theorem checkAll_eq_forIn (files : List (Path × String)) :
    checkAll files = forIn files PUnit.unit fun file _ => do
      checkUpload file.1
      return .yield PUnit.unit := by
  induction files with
  | nil => rfl
  | cons file files ih => rw [checkAll, ih, List.forIn_cons]; simp

theorem upload_eq (now : Nat) (files : List (Path × String)) :
    upload now files = checkAll files >>= fun _ => writeAll now files := by
  rw [writeAll_eq_mapM, checkAll_eq_forIn]
  rfl

/-- There is no obstacle to a file below a node exactly if the path holds no directory and no file
stands on the way. -/
theorem uploadObstacle_eq_none_iff (seen path : Path) (node : Node) :
    uploadObstacle seen path node = none ↔
      (node.at? path).map Node.content ≠ some .dir ∧ ∀ front, front <+: path → ∀ text,
        (node.at? front).map Node.content = some (.file text) → front = path := by
  induction path generalizing seen node with
  | nil => cases node <;> simp [uploadObstacle, Node.content]
  | cons name rest ih =>
    rw [Path.forall_prefix_cons_iff]
    cases node with
    | file stamps text =>
      refine ⟨fun h => (by cases h), fun h => ?_⟩
      cases h.2.1 text rfl
    | dir stamps inside =>
      have hroot : ∀ text, ((Node.dir stamps inside).at? []).map Node.content =
          some (.file text) → [] = name :: rest := fun text h => (by cases h)
      simp only [Node.at?_cons_dir, uploadObstacle, List.cons.injEq, true_and]
      rw [and_iff_right hroot]
      cases inside.find? name with
      | none => simp
      | some child => exact ih (seen ++ [name]) child

/-- The check of a path is a question. -/
theorem checkUpload_eq_ask (path : Path) :
    checkUpload path = ask fun tree =>
      if path.isEmpty then .error .rootAsTarget
      else match uploadObstacle [] path tree.root with
        | some fault => .error fault
        | none => .ok () := by
  funext tree
  cases path with
  | nil => rfl
  | cons name rest =>
    change (match uploadObstacle [] (name :: rest) tree.root with
      | some fault => throw fault
      | none => return : Edit Unit) tree =
      (match uploadObstacle [] (name :: rest) tree.root with
      | some fault => .error fault
      | none => .ok (), tree)
    cases uploadObstacle [] (name :: rest) tree.root <;> rfl

/-- A path passes the check exactly if it is writable. -/
theorem outcome_checkUpload_eq_ok_iff :
    (checkUpload path).outcome tree = .ok () ↔ tree.Writable path := by
  rw [checkUpload_eq_ask, outcome_ask]
  cases path with
  | nil => exact ⟨fun h => (by cases h), fun h => absurd rfl h.1⟩
  | cons name rest =>
    refine Iff.trans ?_ (uploadObstacle_eq_none_iff [] (name :: rest) tree.root)
    cases uploadObstacle [] (name :: rest) tree.root <;> simp

theorem after_checkUpload : (checkUpload path).after tree = tree := by
  rw [checkUpload_eq_ask, after_ask]

theorem after_checkAll : (checkAll files).after tree = tree := by
  induction files with
  | nil => rfl
  | cons entry files ih =>
    rw [checkAll, after_bind, after_checkUpload]
    cases (checkUpload entry.1).outcome tree with
    | error fault => rfl
    | ok value => exact ih

theorem outcome_checkAll_eq_ok_iff :
    (checkAll files).outcome tree = .ok () ↔ ∀ entry ∈ files, tree.Writable entry.1 := by
  induction files with
  | nil => simp [checkAll]
  | cons entry files ih =>
    rw [checkAll, outcome_bind, after_checkUpload, List.forall_mem_cons,
      ← outcome_checkUpload_eq_ok_iff, ← ih]
    cases (checkUpload entry.1).outcome tree <;> simp

/-! ### The whole upload -/

/-- An upload succeeds exactly if its paths are all writable and do not cross. -/
theorem exists_outcome_upload_iff (now : Nat) (files : List (Path × String)) (tree : FileTree) :
    (∃ written, (upload now files).outcome tree = .ok written) ↔
      (∀ entry ∈ files, tree.Writable entry.1) ∧ ¬Crossed files := by
  have hwritable := @outcome_checkAll_eq_ok_iff files tree
  rw [upload_eq, outcome_bind, after_checkAll, ← hwritable]
  cases hcheck : (checkAll files).outcome tree with
  | error fault => simp
  | ok value =>
    simp only [true_and]
    exact ⟨not_crossed_of_outcome_writeAll, exists_outcome_writeAll (hwritable.1 hcheck)⟩

/-- An upload that the check refuses changes nothing. -/
theorem after_upload_of_not_writable (h : ¬∀ entry ∈ files, tree.Writable entry.1) :
    (upload now files).after tree = tree := by
  rw [upload_eq, after_bind, after_checkAll]
  cases hcheck : (checkAll files).outcome tree with
  | error fault => rfl
  | ok value => exact absurd (outcome_checkAll_eq_ok_iff.1 hcheck) h

/-- An upload of paths that cross, each of them writable, leaves something new in the tree. -/
theorem exists_new_of_upload (now : Nat) (hwritable : ∀ entry ∈ files, tree.Writable entry.1)
    (hcrossed : Crossed files) :
    ∃ front, tree.content? front = none ∧
      ((upload now files).after tree).content? front ≠ none := by
  rw [upload_eq, after_bind, after_checkAll, outcome_checkAll_eq_ok_iff.2 hwritable]
  exact exists_new_of_writeAll hwritable fun h => not_crossed_of_outcome_writeAll h hcrossed

/-- A failed upload leaves the tree as it was exactly if the check refused it. -/
theorem upload_atomic_iff :
    (∀ fault, (upload now files).outcome tree = .error fault → (upload now files).after tree = tree) ↔
      ¬((∀ entry ∈ files, tree.Writable entry.1) ∧ Crossed files) := by
  have hsuccess := exists_outcome_upload_iff now files tree
  constructor
  · rintro hatomic ⟨hwritable, hcrossed⟩
    cases houtcome : (upload now files).outcome tree with
    | ok written => exact (hsuccess.1 ⟨written, houtcome⟩).2 hcrossed
    | error fault =>
      obtain ⟨front, hnone, hsome⟩ := exists_new_of_upload now hwritable hcrossed
      rw [hatomic fault houtcome] at hsome
      exact hsome hnone
  · intro hcross fault hfault
    refine after_upload_of_not_writable fun hwritable => ?_
    have hcrossed : ¬Crossed files := fun hcrossed => hcross ⟨hwritable, hcrossed⟩
    obtain ⟨written, hwritten⟩ := hsuccess.2 ⟨hwritable, hcrossed⟩
    rw [hwritten] at hfault
    cases hfault

end Edit

namespace Operation

/-- The paths of a batch, read in a working directory, with their texts. -/
def batch (cwd : String) (files : List (String × String)) : List (Path × String) :=
  files.map fun (path, text) => (Path.read cwd path, text)

/-- **When a failed upload changes nothing.** An upload that fails leaves the tree as it was except
in one case, and in that case it never does: each path of the batch could be written into the tree
as it is, and one of them is a proper part of the way to another one. -/
theorem after_upload_eq_iff (now : Nat) (cwd : String) (files : List (String × String))
    (tree : FileTree) :
    (∀ fault, ((upload files).perform now cwd).outcome tree = .error fault →
        ((upload files).perform now cwd).after tree = tree) ↔
      ¬((∀ entry ∈ batch cwd files, tree.Writable entry.1) ∧ Edit.Crossed (batch cwd files)) :=
  Edit.upload_atomic_iff

/-- A file that is uploaded together with a file below it stays in the tree when the upload
fails at the second one. -/
theorem upload_below_file_leaves_file :
    ((upload [("a", "x"), ("a/b", "y")]).perform 1 "/").outcome .empty =
        .error (.notADirectory ["a"]) ∧
      ((upload [("a", "x"), ("a/b", "y")]).perform 1 "/").after .empty ≠ .empty := by
  decide +kernel

end Operation
end Shellbox
