import Shellbox.Proofs.PathText
import Shellbox.Proofs.Transfer
/-!
# Edits that fail change nothing

Every edit of a single target leaves the tree as it was when it fails: the whole tree, with the
order of all children and all stamps (`Operation.after_eq_of_outcome_eq_error`).

Most edits ask their questions first and change the tree once, at the end. Two do not. `mkdir` with
missing parents to be made has made them when it comes to the last name; but then the directory that
it opened is empty, and the name that a path text ends in is always fit for a child
(`Path.isName_of_mem_read`), so there is nothing left to fail. A move takes its source out before it
puts it back in; what it asked before holds for the tree without the source as well
(`Edit.outcome_move`).
-/

namespace Shellbox
namespace Edit

variable {now : Nat} {parents existOk recursive : Bool} {parent path : Path} {name kind : String}
  {tree : FileTree}

theorem Atomic.create : Atomic (create now parent name kind) := by
  unfold Edit.create
  cases hname : isName name with
  | false => exact fun tree fault _ => by simp
  | true =>
    simp only [Bool.not_true, Bool.false_eq_true, if_false]
    refine Atomic.bind_quiet (fun _ => rfl) fun inside => ?_
    cases hsome : (inside.find? name).isSome with
    | true => exact fun tree fault _ => by simp
    | false =>
      simp only [Bool.false_eq_true, if_false]
      split
      · exact Atomic.bind_sure Atomic.addChild fun _ _ _ => ⟨_, rfl⟩
      · exact Atomic.bind_sure Atomic.addChild fun _ _ _ => ⟨_, rfl⟩
      · exact fun tree fault _ => by simp

/-- In a directory that was opened, the only obstacle to a new directory of a proper name is a child
of that name. -/
theorem outcome_create_after_openDir {inside : Entries} (hname : isName name)
    (hopen : (openDir now parents parent).outcome tree = .ok inside)
    (hfree : inside.find? name = none) :
    (create now parent name "dir").outcome ((openDir now parents parent).after tree) =
      .ok (parent ++ [name]) := by
  unfold create
  simp [hname, outcome_bind, directory_after_openDir hopen, hfree,
    outcome_addChild_after_openDir (.dir (.fresh now) .nil) hopen hfree, Except.map]

theorem Atomic.mkdir (hnames : ∀ name ∈ path, isName name) :
    Atomic (mkdir now path parents existOk) := by
  unfold Edit.mkdir
  refine Atomic.bind_quiet (fun _ => rfl) fun found => ?_
  split
  · exact Atomic.pure path
  · rcases List.eq_nil_or_concat' path with rfl | ⟨parent, name, rfl⟩
    · exact Atomic.throw _
    · rw [openParent_append, bind_assoc]
      simp only [pure_bind]
      refine Atomic.bind Atomic.openDir fun tree inside fault hopen herror => ?_
      cases hfound : inside.find? name with
      | none =>
        have hname : isName name := hnames name (by simp)
        rw [outcome_create_after_openDir hname hopen hfound] at herror
        cases herror
      | some child =>
        rw [after_openDir_of_find? hopen hfound] at herror ⊢
        exact Atomic.create tree fault herror

theorem Atomic.remove : Atomic (remove now path recursive) := by
  unfold Edit.remove
  split
  · exact Atomic.throw _
  · next parent name _ =>
    refine Atomic.bind_quiet (fun _ => rfl) fun node => ?_
    cases node with
    | file stamps text => exact Atomic.removeChild
    | dir stamps inside =>
      dsimp only
      split
      · exact fun tree fault _ => by simp
      · exact Atomic.removeChild

end Edit

namespace Operation

/-- Whether an operation has one target. Only a batch of files has more. -/
def isSingle : Operation → Bool
  | upload _ => false
  | _ => true

/-- An operation of a single target is atomic. -/
theorem atomic_perform (now : Nat) (cwd : String) {operation : Operation}
    (hsingle : operation.isSingle) : (operation.perform now cwd).Atomic := by
  have hanswer : ∀ {edit : Edit Path}, edit.Atomic →
      Edit.Atomic (do return [← edit] : Edit (List Path)) := fun hedit =>
    Edit.Atomic.bind_sure hedit fun _ _ _ => ⟨_, rfl⟩
  cases operation with
  | create parent name kind => exact hanswer Edit.Atomic.create
  | mkdir path parents existOk =>
    exact hanswer (Edit.Atomic.mkdir (Path.isName_of_mem_read cwd path))
  | touch path => exact hanswer Edit.Atomic.touch
  | writeFile path text parents => exact hanswer Edit.Atomic.writeFile
  | upload files => cases hsingle
  | remove path recursive =>
    exact Edit.Atomic.bind_sure Edit.Atomic.remove fun _ _ _ => ⟨_, rfl⟩
  | copy source target => exact hanswer Edit.Atomic.copy
  | move source target => exact hanswer Edit.Atomic.move

/-- **A failed operation changes nothing.** Whatever the tree, the time, the working directory and
the arguments, an operation of a single target that ends with a fault leaves the very tree that it
found: kinds, texts, the order of children and every stamp. -/
theorem after_eq_of_outcome_eq_error {now : Nat} {cwd : String} {operation : Operation}
    {tree : FileTree} {fault : Fault} (hsingle : operation.isSingle)
    (hfault : (operation.perform now cwd).outcome tree = .error fault) :
    (operation.perform now cwd).after tree = tree :=
  atomic_perform now cwd hsingle tree fault hfault

/-- Making a directory below a file fails, also when missing directories are to be made. -/
theorem mkdir_below_file_changes_nothing :
    let tree : FileTree := ⟨.fresh 0, .dir "a" (.fresh 0) (.file "f" (.fresh 0) "x" .nil) .nil⟩
    ((mkdir "f/g/h" true false).perform 1 "/a").outcome tree = .error (.notADirectory ["a", "f"]) ∧
      ((mkdir "f/g/h" true false).perform 1 "/a").after tree = tree := by
  intro tree
  have hfault : ((mkdir "f/g/h" true false).perform 1 "/a").outcome tree =
      .error (.notADirectory ["a", "f"]) := rfl
  exact ⟨hfault, after_eq_of_outcome_eq_error rfl hfault⟩

end Operation
end Shellbox
