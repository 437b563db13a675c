import Shellbox.Proofs.Transfer
/-!
# Edits that spare a directory

An edit spares a path if a directory that stands there still stands there afterwards, whether the
edit fails or not. Most edits spare every path: they put new nodes in free places, or give a file
another text. Only taking a node out can cost a directory its place, and then it is the directory
itself or one below it: `remove` and `move` spare every path that is not at or below their source.

A directory that is spared may have other children afterwards.
-/

namespace Shellbox
namespace Edit

variable {α β : Type} {path : Path}

/-- A directory at the path is still a directory after the edit, whether it fails or not. -/
def Spares (path : Path) (edit : Edit α) : Prop :=
  ∀ tree, tree.content? path = some .dir → (edit.after tree).content? path = some .dir

theorem Spares.quiet {edit : Edit α} (hquiet : ∀ tree, edit.after tree = tree) :
    Spares path edit := Preserves.quiet hquiet

theorem Spares.pure (value : α) : Spares path (Pure.pure value) := Preserves.pure value

theorem Spares.throw (fault : Fault) : Spares path (MonadExcept.throw fault : Edit α) :=
  Preserves.throw fault

theorem Spares.of_atomic {edit : Edit α} (hatomic : Atomic edit)
    (hok : ∀ tree value, edit.outcome tree = .ok value → tree.content? path = some .dir →
      (edit.after tree).content? path = some .dir) : Spares path edit :=
  Preserves.of_atomic hatomic hok

theorem Spares.bind {edit : Edit α} {next : α → Edit β} (hedit : Spares path edit)
    (hnext : ∀ value, Spares path (next value)) : Spares path (edit >>= next) :=
  Preserves.bind hedit hnext

theorem Spares.bind_ask {question : FileTree → Except Fault α} {next : α → Edit β}
    (hnext : ∀ tree value, question tree = .ok value → Spares path (next value)) :
    Spares path (ask question >>= next) :=
  Preserves.bind_ask fun tree value hvalue _ => hnext tree value hvalue

section Edits

variable {now : Nat} {make parents existOk recursive : Bool} {parent source target other : Path}
  {name kind text : String} {node : Node}

theorem Spares.openDir : Spares path (openDir now make other) :=
  Spares.of_atomic Atomic.openDir fun tree inside hopen h => by
    rw [content?_after_openDir hopen, h]
    rfl

/-- A child is only added where there was nothing. -/
theorem Spares.addChild : Spares path (addChild now parent name node) := by
  refine Spares.of_atomic Atomic.addChild fun tree _ hadd h => ?_
  obtain ⟨-, hfree⟩ := outcome_addChild_eq_ok_iff.1 hadd
  have hbelow : ¬parent ++ [name] <+: path := fun hbelow => by
    rw [FileTree.content?_eq_none_of_prefix hfree hbelow] at h
    cases h
  rw [after_addChild_of_ok hadd, FileTree.content?_push_elsewhere hbelow]
  exact h

theorem Spares.removeChild (houtside : ¬parent ++ [name] <+: path) :
    Spares path (removeChild now parent name) := by
  refine Spares.of_atomic Atomic.removeChild fun tree _ hremove h => ?_
  rw [after_removeChild_of_ok hremove, FileTree.content?_erase_elsewhere houtside]
  exact h

theorem Spares.ensureFile : Spares path (ensureFile now parents other) :=
  Spares.of_atomic Atomic.ensureFile fun tree _ hfile h => by
    rw [content?_after_ensureFile hfile, h]
    rfl

theorem Spares.touch : Spares path (touch now other) := by
  refine Spares.bind Spares.ensureFile fun _ => Spares.bind (fun tree h => ?_) fun _ => Spares.pure _
  rw [after_amend, FileTree.content?_amend_touched]
  exact h

/-- A text is only given to a file, or where there was nothing. -/
theorem Spares.writeFile : Spares path (writeFile now other text parents) := by
  refine Spares.of_atomic Atomic.writeFile fun tree written hwrite h => ?_
  have hok : (Edit.writeFile now other text parents).outcome tree = .ok other := by
    rw [outcome_writeFile] at hwrite ⊢
    cases hfile : (Edit.ensureFile now parents other).outcome tree with
    | error fault => rw [hfile] at hwrite; cases hwrite
    | ok _ => rfl
  have hother : path ≠ other := by
    rintro rfl
    exact content?_ne_dir_of_ensureFile (outcome_writeFile_eq_ok_iff.1 hok) h
  rw [content?_after_writeFile hok, if_neg hother, h]
  rfl

theorem Spares.create : Spares path (create now parent name kind) := by
  unfold Edit.create
  cases hname : isName name with
  | false => exact fun tree h => by simpa using h
  | true =>
    simp only [Bool.not_true, Bool.false_eq_true, if_false]
    refine Spares.bind_ask fun _ inside _ => ?_
    cases hsome : (inside.find? name).isSome with
    | true => exact fun tree h => by simpa using h
    | false =>
      simp only [Bool.false_eq_true, if_false]
      split
      · exact Spares.bind Spares.addChild fun _ => Spares.pure _
      · exact Spares.bind Spares.addChild fun _ => Spares.pure _
      · exact fun tree h => by simpa using h

theorem Spares.mkdir : Spares path (mkdir now other parents existOk) := by
  unfold Edit.mkdir
  refine Spares.bind (Spares.quiet fun _ => rfl) fun tree => ?_
  split
  · exact Spares.pure _
  · unfold openParent
    split
    · exact Spares.throw _
    · refine Spares.bind ?_ fun opened => Spares.create
      exact Spares.bind Spares.openDir fun _ => Spares.pure _

/-- Taking a node out spares the directories that are not at or below it. -/
theorem Spares.remove (houtside : ¬other <+: path) : Spares path (remove now other recursive) := by
  unfold Edit.remove
  split
  · exact Spares.throw _
  · next parent name hsplit =>
    rw [← Path.append_of_split? hsplit] at houtside
    refine Spares.bind_ask fun tree node _ => ?_
    cases node with
    | file stamps text => exact Spares.removeChild houtside
    | dir stamps inside =>
      dsimp only
      split
      · exact Spares.throw _
      · exact Spares.removeChild houtside

theorem Spares.copy : Spares path (copy now source target) := by
  unfold Edit.copy
  refine Spares.bind_ask fun tree plan _ => ?_
  exact Spares.bind Spares.addChild fun _ => Spares.pure _

/-- A move spares the directories that are not at or below its source. -/
theorem Spares.move (houtside : ¬source <+: path) : Spares path (move now source target) := by
  unfold Edit.move
  refine Spares.bind_ask fun tree plan hplan => ?_
  have hsource := (fits_of_planTransfer hplan).source_eq
  refine Spares.bind (Spares.removeChild (hsource ▸ houtside)) fun _ => ?_
  exact Spares.bind Spares.addChild fun _ => Spares.pure _

end Edits

end Edit
end Shellbox
