import Shellbox.Proofs.Transfer
/-!
# A move is a copy and a removal

A move takes the source out and puts the node itself in its new place; a copy puts another node there
and leaves the source to be removed. `FileTree.timeless` forgets all stamps, and then the two ways
make the same two changes in either order.

That these changes commute is `Node.erase_push_comm`, by induction on the two paths together: one
list of children is changed twice, or a child in it is changed while another one is taken out or put
in, or two children are changed, or both changes go into one child. The order of the children comes
out the same each time, since taking a child out and putting one behind the others do not see each
other.
-/

namespace Shellbox

/-- Renewing twice is renewing the second time. -/
theorem Entries.renewed_renewed (now later : Nat) (entries : Entries) :
    (entries.renewed now).renewed later = entries.renewed later := by
  induction entries with
  | nil => rfl
  | file name stamps text rest ih => simp [renewed, ih]
  | dir name stamps inside rest ihInside ih => simp [renewed, ihInside, ih]

namespace Node

theorem renewed_dir (now : Nat) (stamps : Stamps) (inside : Entries) :
    (dir stamps inside).renewed now = dir (.fresh now) (inside.renewed now) := rfl

/-- Renewing a node after a change is the change of the renewed node, if that holds of the
change itself. -/
theorem renewed_amend {now : Nat} {change renewedChange : Node → Node}
    (h : ∀ node, (change node).renewed now = renewedChange (node.renewed now)) (path : Path)
    (node : Node) :
    (node.amend change path).renewed now = (node.renewed now).amend renewedChange path := by
  induction path generalizing node with
  | nil => exact h node
  | cons name path ih =>
    cases node with
    | file stamps text => rfl
    | dir stamps inside =>
      rw [renewed_dir, amend, amend, Entries.find?_renewed]
      cases inside.find? name with
      | none => rfl
      | some child =>
        simp only [Option.map_some]
        rw [renewed_dir, Entries.renewed_replace, ih]

theorem renewed_renewed (now later : Nat) (node : Node) :
    (node.renewed now).renewed later = node.renewed later := by
  cases node with
  | file stamps text => rfl
  | dir stamps inside => simp only [renewed_dir, Entries.renewed_renewed]

theorem renewed_touched (now later : Nat) (node : Node) :
    (node.touched now).renewed later = node.renewed later := by
  cases node <;> rfl

/-- Renewing a node renews all that is below it. -/
theorem at?_renewed (now : Nat) (path : Path) (node : Node) :
    (node.renewed now).at? path = (node.at? path).map (renewed now) := by
  induction path generalizing node with
  | nil => rfl
  | cons name rest ih =>
    cases node with
    | file stamps text => rfl
    | dir stamps inside =>
      rw [renewed_dir, at?_cons_dir, at?_cons_dir, Entries.find?_renewed]
      cases inside.find? name with
      | none => rfl
      | some child => exact ih child

theorem renewed_relisted (now later : Nat) {change renewedChange : Entries → Entries}
    (h : ∀ entries, (change entries).renewed later = renewedChange (entries.renewed later))
    (node : Node) :
    (node.relisted now change).renewed later =
      (node.renewed later).relisted later renewedChange := by
  cases node with
  | file stamps text => rfl
  | dir stamps inside => simp only [relisted, renewed_dir, h]; rfl

/-- A child that is there and a new one: the first may be taken out before or after the second is
put in, wherever both are, unless the second is to go below the first. -/
theorem erase_push_comm {now : Nat} {erased pushed : String} {new : Node} {source target : Path}
    {node : Node} (hthere : (node.at? (source ++ [erased])).isSome)
    (houtside : ¬source ++ [erased] <+: target) :
    (node.amend (.relisted now (·.push pushed new)) target).amend
        (.relisted now (·.erase erased)) source =
      (node.amend (.relisted now (·.erase erased)) source).amend
        (.relisted now (·.push pushed new)) target := by
  induction source generalizing target node with
  | nil =>
    cases node with
    | file stamps text => cases hthere
    | dir stamps inside =>
      have herased : (inside.find? erased).isSome := Option.isSome_of_isSome_bind hthere
      cases target with
      | nil => simp only [amend, relisted, Entries.erase_push herased]
      | cons first rest =>
        have hne : first ≠ erased := by
          rintro rfl
          exact houtside (List.cons_prefix_cons.2 ⟨rfl, List.nil_prefix⟩)
        simp only [amend, relisted, Entries.find?_erase_of_ne hne]
        cases inside.find? first with
        | none => rfl
        | some child => simp only [Entries.replace_erase hne]
  | cons name source ih =>
    cases node with
    | file stamps text => cases hthere
    | dir stamps inside =>
      rw [List.cons_append, at?_cons_dir] at hthere
      cases hname : inside.find? name with
      | none => rw [hname] at hthere; cases hthere
      | some child =>
        rw [hname, Option.bind_some] at hthere
        cases target with
        | nil =>
          have hsome : (inside.find? name).isSome := by rw [hname]; rfl
          simp only [amend, relisted, Entries.find?_push, hname, Option.some_or,
            Entries.replace_push hsome]
        | cons first rest =>
          by_cases hfirst : first = name
          · subst hfirst
            have hrest : ¬source ++ [erased] <+: rest := fun hp =>
              houtside (List.cons_prefix_cons.2 ⟨rfl, hp⟩)
            simp only [amend, hname, Entries.find?_replace, if_pos, Option.map_some,
              Entries.replace_replace, ih hthere hrest]
          · cases hother : inside.find? first with
            | none => simp [amend, hname, hother, Entries.find?_replace, hfirst]
            | some other =>
              simp only [amend, hname, hother, Entries.find?_replace, if_neg hfirst,
                if_neg (Ne.symm hfirst), Entries.replace_comm (Ne.symm hfirst)]

end Node

/-- The tree as if all of it had been made at time zero: names, kinds, texts and the order of
children, and no time. -/
def FileTree.timeless (tree : FileTree) : Node := tree.root.renewed 0

theorem FileTree.timeless_amend_relisted {now : Nat} {change timelessChange : Entries → Entries}
    (h : ∀ entries, (change entries).renewed 0 = timelessChange (entries.renewed 0))
    (tree : FileTree) (path : Path) :
    (tree.amend path (.relisted now change)).timeless =
      tree.timeless.amend (.relisted 0 timelessChange) path := by
  rw [timeless, root_amend (Node.isDir_relisted now change),
    Node.renewed_amend (Node.renewed_relisted now 0 h)]
  rfl

open Edit in
/-- A planned move and a copy that is followed by the removal of its source, by any clocks, leave
trees that differ in nothing but time. -/
theorem Edit.Transfer.Fits.timeless_eq {tree : FileTree} {source : Path} {plan : Transfer}
    (h : plan.Fits tree source) (moved copied removed : Nat) :
    ((tree.amend plan.sourceParent (.relisted moved (·.erase plan.sourceName))).amend plan.parent
        (.relisted moved (·.push plan.name (plan.node.touched moved)))).timeless =
      ((tree.amend plan.parent
        (.relisted copied (·.push plan.name (plan.node.renewed copied)))).amend plan.sourceParent
          (.relisted removed (·.erase plan.sourceName))).timeless := by
  have herase := Entries.renewed_erase 0 plan.sourceName
  have hpush := fun node entries => Entries.renewed_push 0 plan.name node entries
  rw [FileTree.timeless_amend_relisted (hpush _), FileTree.timeless_amend_relisted herase,
    FileTree.timeless_amend_relisted herase, FileTree.timeless_amend_relisted (hpush _),
    Node.renewed_touched, Node.renewed_renewed]
  refine (Node.erase_push_comm ?_ (h.source_eq ▸ h.parent_outside)).symm
  rw [FileTree.timeless, Node.at?_renewed, ← h.source_eq, ← FileTree.at?_eq_root, h.at_source]
  rfl

namespace Operation

/-- **A move is a copy and a removal.** Whatever the tree, the working directory and the two path
texts, a move ends as the copy does: with the same fault, or at the same path. Where they succeed,
the source can be removed after the copy, and the tree is then the one after the move: the same
paths, kinds, texts and order of children. The three edits may run at any times. -/
theorem move_eq_copy_then_remove (moved copied removed : Nat) (cwd source target : String)
    (tree : FileTree) :
    ((move source target).perform moved cwd).outcome tree =
        ((copy source target).perform copied cwd).outcome tree ∧
      ∀ places, ((copy source target).perform copied cwd).outcome tree = .ok places →
        ((remove source true).perform removed cwd).outcome
            (((copy source target).perform copied cwd).after tree) = .ok [] ∧
          (((move source target).perform moved cwd).after tree).timeless =
            (((remove source true).perform removed cwd).after
              (((copy source target).perform copied cwd).after tree)).timeless := by
  simp only [perform, bind_pure_comp, Edit.outcome_map, Edit.after_map, Edit.outcome_move,
    Edit.outcome_copy, true_and]
  intro places hplaces
  cases hplan : Edit.planTransfer (Path.read cwd source) (Path.read cwd target) tree with
  | error fault => rw [hplan] at hplaces; cases hplaces
  | ok plan =>
    have hfits := Edit.fits_of_planTransfer hplan
    have hsource := hfits.content?_source_of_push copied (plan.node.renewed copied)
    rw [Edit.after_move hplan, Edit.after_copy hplan, hfits.timeless_eq moved copied removed]
    obtain ⟨houtcome, hafter⟩ := Edit.remove_recursive removed hsource
    rw [hfits.source_eq, houtcome, hafter]
    exact ⟨rfl, rfl⟩

/-- A directory that goes into its neighbour: the copy succeeds, so that the source can be removed
afterwards. -/
theorem move_into_neighbour :
    let tree : FileTree := ⟨.fresh 0, .dir "a" (.fresh 0) (.file "f" (.fresh 0) "x" .nil)
      (.dir "b" (.fresh 0) .nil .nil)⟩
    ((copy "/a" "b").perform 1 "/").outcome tree = .ok [["b", "a"]] ∧
      ((remove "/a" true).perform 2 "/").outcome (((copy "/a" "b").perform 1 "/").after tree) =
        .ok [] := by
  intro tree
  have hcopy : ((copy "/a" "b").perform 1 "/").outcome tree = .ok [["b", "a"]] := rfl
  exact ⟨hcopy, ((move_eq_copy_then_remove 3 1 2 "/" "/a" "b" tree).2 _ hcopy).1⟩

end Operation
end Shellbox
