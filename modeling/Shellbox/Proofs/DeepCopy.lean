import Shellbox.Proofs.Listings
import Shellbox.Proofs.MoveAsCopy
/-!
# What a copy is a copy of

A copy pushes one new child, the renewed node of the source, into the directory of its plan. Renewing
touches the stamps alone, so that a path below the new child leads to what the same path below the
source led to before (`Edit.Transfer.Fits.at?_copied`): the same kinds, the same texts and, in every
directory, the same names in the same order (`FileTree.listed?`).

Everywhere else the tree is as it was, but for the directory that has one more name at the end of its
listing. The source is no exception, since the place of the copy is never inside it.
`FileTree.DeepCopy` puts these facts together, and `Operation.copy_is_deep` says that every copy that
succeeds is one, at the target itself or under the name of the source inside it.
-/

namespace Shellbox

namespace Node

theorem content_renewed (now : Nat) (node : Node) :
    (node.renewed now).content = node.content := by
  cases node <;> rfl

theorem listed?_renewed (now : Nat) (node : Node) :
    (node.renewed now).listed? = node.listed? := by
  cases node with
  | file stamps text => rfl
  | dir stamps inside => exact congrArg some (Entries.names_renewed now inside)

end Node

namespace FileTree

/-- The tree `after` differs from `before` in a deep copy of `source` under the name `name` in the
directory `parent`. -/
structure DeepCopy (before after : FileTree) (source parent : Path) (name : String) : Prop where
  /-- There was nothing where the copy is now. -/
  free : before.content? (parent ++ [name]) = none
  /-- At and below the copy there is what there was at and below the source, and nothing more. -/
  copied : ∀ rest, after.content? (parent ++ name :: rest) = before.content? (source ++ rest)
  /-- Each directory of the copy lists its children as the original did. -/
  copied_order : ∀ rest, after.listed? (parent ++ name :: rest) = before.listed? (source ++ rest)
  /-- The copy is the last child of its directory, behind the children that were there. -/
  last : ∃ names, before.listed? parent = some names ∧ after.listed? parent = some (names ++ [name])
  /-- Nothing is changed elsewhere. -/
  kept : ∀ path, ¬parent ++ [name] <+: path → after.content? path = before.content? path
  /-- No other directory lists its children differently. -/
  kept_order : ∀ path, ¬parent ++ [name] <+: path → path ≠ parent →
    after.listed? path = before.listed? path
  /-- The source is what it was, with all that is below it. -/
  source_kept : ∀ rest, after.content? (source ++ rest) = before.content? (source ++ rest)

end FileTree

namespace Edit

variable {source : Path} {plan : Transfer} {tree : FileTree}

/-- A path below the copy leads to the renewed node to which it led below the source. -/
theorem Transfer.Fits.at?_copied (h : plan.Fits tree source) (now : Nat) (rest : Path) :
    (tree.amend plan.parent
        (.relisted now (·.push plan.name (plan.node.renewed now)))).at?
          (plan.parent ++ plan.name :: rest) =
      (tree.at? (source ++ rest)).map (Node.renewed now) := by
  rw [FileTree.at?_push_below now _ h.parent_dir h.place_free, Node.at?_renewed,
    FileTree.at?_eq_root tree, Node.at?_append, ← FileTree.at?_eq_root, h.at_source,
    Option.bind_some]

/-- Pushing the renewed node of a plan at its place makes a deep copy. -/
theorem Transfer.Fits.deepCopy (h : plan.Fits tree source) (now : Nat) :
    FileTree.DeepCopy tree
      (tree.amend plan.parent (.relisted now (·.push plan.name (plan.node.renewed now))))
      source plan.parent plan.name where
  free := h.place_free
  copied rest := by
    rw [FileTree.content?, h.at?_copied now rest, Option.map_map]
    exact congrArg (Option.map · _) (funext (Node.content_renewed now))
  copied_order rest := by
    rw [FileTree.listed?_eq, FileTree.listed?_eq, h.at?_copied now rest, Option.map_map]
    exact congrArg (fun view => (Option.map view _).join) (funext (Node.listed?_renewed now))
  last := by
    obtain ⟨inside, hinside⟩ := FileTree.directory_ok_iff_content?.2 h.parent_dir
    obtain ⟨stamps, hat⟩ := FileTree.directory_eq_ok_iff.1 hinside
    have hnames : tree.listed? plan.parent = some inside.names := by
      rw [FileTree.listed?_eq, hat]
      rfl
    exact ⟨inside.names, hnames, FileTree.listed?_push hnames now plan.name _⟩
  kept _ hpath := FileTree.content?_push_elsewhere hpath now _ tree
  kept_order _ hpath hne := FileTree.listed?_push_elsewhere hpath hne now _ tree
  source_kept rest := by
    refine FileTree.content?_push_elsewhere (fun hp => ?_) now _ tree
    -- the place is not above the source, nor the source above the place
    rcases List.prefix_or_prefix_of_prefix hp (List.prefix_append source rest) with hplace | hsource
    · exact h.place_not_above hplace
    · exact h.place_outside hsource

end Edit

namespace Operation

/-- **A copy is deep.** In every tree, a copy that succeeds answers with one path. It is the target,
if there was nothing, or the path of the source's name in the target, if that was a directory; and
what is there afterwards is a deep copy of the source. -/
theorem copy_is_deep {now : Nat} {cwd source target : String} {tree : FileTree}
    {places : List Path}
    (h : ((copy source target).perform now cwd).outcome tree = .ok places) :
    ∃ parent name, places = [parent ++ [name]] ∧
      (tree.content? (Path.read cwd target) = none ∧ parent ++ [name] = Path.read cwd target ∨
        tree.content? (Path.read cwd target) = some .dir ∧ parent = Path.read cwd target ∧
          (Path.read cwd source).getLast? = some name) ∧
      tree.DeepCopy (((copy source target).perform now cwd).after tree) (Path.read cwd source)
        parent name := by
  simp only [perform, bind_pure_comp, Edit.outcome_map, Edit.after_map, Edit.outcome_copy] at h ⊢
  cases hplan : Edit.planTransfer (Path.read cwd source) (Path.read cwd target) tree with
  | error fault => rw [hplan] at h; cases h
  | ok plan =>
    rw [hplan] at h
    cases h
    have hfits := Edit.fits_of_planTransfer hplan
    obtain ⟨-, -, hdestination, -⟩ := Edit.planTransfer_eq_ok hplan
    refine ⟨plan.parent, plan.name, rfl, ?_, Edit.after_copy hplan ▸ hfits.deepCopy now⟩
    obtain ⟨hdir, hfree, ⟨hparent, hname⟩ | hplace⟩ := Edit.destination_eq_ok hdestination
    · refine Or.inr ⟨hparent ▸ hdir, hparent, ?_⟩
      rw [hname, hfits.source_eq, List.getLast?_concat]
    · exact Or.inl ⟨hplace ▸ hfree, hplace⟩

/-- A directory with a file in it goes into its neighbour: the file is there under the new path, and
still under the old one. -/
theorem copy_into_neighbour :
    let tree : FileTree := ⟨.fresh 0, .dir "a" (.fresh 0) (.file "f" (.fresh 0) "x" .nil)
      (.dir "b" (.fresh 0) .nil .nil)⟩
    ((copy "/a" "b").perform 1 "/").outcome tree = .ok [["b", "a"]] ∧
      (((copy "/a" "b").perform 1 "/").after tree).content? ["b", "a", "f"] = some (.file "x") ∧
      (((copy "/a" "b").perform 1 "/").after tree).content? ["a", "f"] = some (.file "x") := by
  intro tree
  have hcopy : ((copy "/a" "b").perform 1 "/").outcome tree = .ok [["b", "a"]] := rfl
  obtain ⟨parent, name, hplaces, -, hdeep⟩ := copy_is_deep hcopy
  have hplace : ["b"] ++ ["a"] = parent ++ [name] := List.singleton_inj.1 hplaces
  obtain ⟨rfl, hname⟩ := List.append_inj' hplace rfl
  cases hname
  exact ⟨hcopy, hdeep.copied ["f"], hdeep.source_kept ["f"]⟩

end Operation
end Shellbox
