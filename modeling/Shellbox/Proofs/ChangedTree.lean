import Shellbox.Proofs.Placement
/-!
# The map of a tree after a change

Every edit changes the tree at one node, and this file says what each kind of change does to the map
from paths to contents. When the change relists a directory and only one name is concerned, the map
stays as it is except at that name and below (`FileTree.content?_relisted`); from this come the
equations for a child that is pushed and for one that is erased. Another text for a file concerns
the path of the file alone, and a new stamp no path at all. Other views of a node than its content
are kept as well, but for the directory that was relisted (`FileTree.map_at?_relisted`).
-/

namespace Shellbox
namespace FileTree

/-- A change at a path leaves what every path not at or below it holds. -/
theorem content?_amend_elsewhere {change : Node → Node}
    (hkeep : ∀ node, (change node).isDir = node.isDir) {path other : Path} (h : ¬path <+: other)
    (tree : FileTree) : (tree.amend path change).content? other = tree.content? other := by
  have hshallow := congrArg (Option.map Node.content)
    (Node.at?_amend_elsewhere change h tree.root)
  simp only [Option.map_map] at hshallow
  have hcontent : Node.content ∘ Node.shallow = Node.content :=
    funext fun node => node.content_shallow
  rw [hcontent] at hshallow
  rw [content?, at?_eq_root, root_amend hkeep, hshallow]
  rfl

/-- The node at a path at or below a change. -/
theorem at?_amend_append {change : Node → Node}
    (hkeep : ∀ node, (change node).isDir = node.isDir) (tree : FileTree) (path rest : Path) :
    (tree.amend path change).at? (path ++ rest) =
      (tree.at? path).bind fun found => (change found).at? rest := by
  rw [at?_eq_root, root_amend hkeep, Node.at?_amend_append]
  rfl

/-- What a path at or below a change holds afterwards. -/
theorem content?_amend_append {change : Node → Node}
    (hkeep : ∀ node, (change node).isDir = node.isDir) (tree : FileTree) (path rest : Path) :
    (tree.amend path change).content? (path ++ rest) =
      ((tree.at? path).bind fun found => (change found).at? rest).map Node.content :=
  congrArg (Option.map Node.content) (at?_amend_append hkeep tree path rest)

/-- Relisting a directory where only the child of one name is concerned leaves alone, at every path
that is neither the directory nor at or below that child, what does not depend on the child that
stands under a name. -/
theorem map_at?_relisted {β : Type} {view : Node → β}
    (hview : ∀ stamps inside name child,
      view (.dir stamps (inside.replace name child)) = view (.dir stamps inside))
    {now : Nat} {change : Entries → Entries} {name : String}
    (hothers : ∀ entries other, other ≠ name → (change entries).find? other = entries.find? other)
    {path other : Path} (hbelow : ¬path ++ [name] <+: other) (hne : other ≠ path)
    (tree : FileTree) :
    ((tree.amend path (.relisted now change)).at? other).map view = (tree.at? other).map view := by
  have hkeep := Node.isDir_relisted now change
  by_cases hpath : path <+: other
  · obtain ⟨rest, rfl⟩ := hpath
    rw [at?_amend_append hkeep, at?_eq_root, at?_eq_root, Node.at?_append]
    cases tree.root.at? path with
    | none => rfl
    | some node =>
      cases rest with
      | nil => exact absurd (List.append_nil path) hne
      | cons first rest =>
        have hfirst : first ≠ name := by
          rintro rfl
          exact hbelow ((List.prefix_append_right_inj path).2
            (List.cons_prefix_cons.2 ⟨rfl, List.nil_prefix⟩))
        cases node with
        | file stamps text => rfl
        | dir stamps inside =>
          simp only [Option.bind_some, Node.relisted, Node.at?_cons_dir,
            hothers inside first hfirst]
  · rw [at?_eq_root, root_amend hkeep]
    exact Node.map_at?_amend_elsewhere hview _ hpath tree.root

/-- Relisting a directory where only the child of one name is concerned leaves what every path
holds that is not at or below that child. -/
theorem content?_relisted {now : Nat} {change : Entries → Entries} {name : String}
    (hothers : ∀ entries other, other ≠ name → (change entries).find? other = entries.find? other)
    {path other : Path} (h : ¬path ++ [name] <+: other) (tree : FileTree) :
    (tree.amend path (.relisted now change)).content? other = tree.content? other := by
  by_cases hpath : other = path
  · -- the directory itself is a directory with whatever children
    subst hpath
    have happend := content?_amend_append (Node.isDir_relisted now change) tree other []
    rw [List.append_nil] at happend
    rw [happend, content?]
    cases tree.at? other with
    | none => rfl
    | some node => cases node <;> rfl
  · exact map_at?_relisted (fun _ _ _ _ => rfl) hothers h hpath tree

/-- Pushing a child leaves what every path holds that is not at or below it. -/
theorem content?_push_elsewhere {path other : Path} {name : String}
    (h : ¬path ++ [name] <+: other) (now : Nat) (node : Node) (tree : FileTree) :
    (tree.amend path (.relisted now (·.push name node))).content? other = tree.content? other :=
  content?_relisted (fun entries _ hne => Entries.find?_push_of_ne hne node entries) h tree

/-- Taking a child out leaves what every path holds that is not at or below it. -/
theorem content?_erase_elsewhere {path other : Path} {name : String}
    (h : ¬path ++ [name] <+: other) (now : Nat) (tree : FileTree) :
    (tree.amend path (.relisted now (·.erase name))).content? other = tree.content? other :=
  content?_relisted (fun entries _ hne => Entries.find?_erase_of_ne hne entries) h tree

/-- A child pushed under a free name is there afterwards, with all that is below it. -/
theorem at?_push_below {tree : FileTree} {path : Path} {name : String} (now : Nat) (node : Node)
    (hdir : tree.content? path = some .dir) (hfree : tree.content? (path ++ [name]) = none)
    (rest : Path) :
    (tree.amend path (.relisted now (·.push name node))).at? (path ++ name :: rest) =
      node.at? rest := by
  obtain ⟨inside, hinside⟩ := directory_ok_iff_content?.2 hdir
  rw [content?_child hinside, Option.map_eq_none_iff] at hfree
  obtain ⟨stamps, hat⟩ := directory_eq_ok_iff.1 hinside
  rw [at?_amend_append (Node.isDir_relisted now _), hat]
  simp [Node.relisted, Entries.find?_push, hfree]

theorem content?_push_below {tree : FileTree} {path : Path} {name : String} (now : Nat)
    (node : Node) (hdir : tree.content? path = some .dir)
    (hfree : tree.content? (path ++ [name]) = none) (rest : Path) :
    (tree.amend path (.relisted now (·.push name node))).content? (path ++ name :: rest) =
      (node.at? rest).map Node.content :=
  congrArg (Option.map Node.content) (at?_push_below now node hdir hfree rest)

/-- A node with nothing below it, pushed under a free name, concerns its path alone. -/
theorem content?_push_leaf {tree : FileTree} {path : Path} {name : String} {node : Node} (now : Nat)
    (hleaf : ∀ first rest, node.at? (first :: rest) = none)
    (hdir : tree.content? path = some .dir) (hfree : tree.content? (path ++ [name]) = none)
    (other : Path) :
    (tree.amend path (.relisted now (·.push name node))).content? other =
      if other = path ++ [name] then some node.content else tree.content? other := by
  by_cases hbelow : path ++ [name] <+: other
  · obtain ⟨rest, rfl⟩ := hbelow
    rw [List.append_assoc, List.singleton_append, content?_push_below now _ hdir hfree]
    cases rest with
    | nil => simp
    | cons first rest =>
      have hnone : tree.content? (path ++ name :: first :: rest) = none :=
        content?_eq_none_of_prefix hfree ⟨first :: rest, by simp⟩
      rw [if_neg (by simp), hnone, hleaf]
      rfl
  · have hother : other ≠ path ++ [name] := fun he => hbelow (he ▸ List.prefix_refl _)
    rw [content?_push_elsewhere hbelow, if_neg hother]

/-- Giving a file another text concerns its path alone. -/
theorem content?_amend_withText {tree : FileTree} {path : Path} {old : String} (now : Nat)
    (text : String) (hfile : tree.content? path = some (.file old)) (other : Path) :
    (tree.amend path (.withText now text)).content? other =
      if other = path then some (.file text) else tree.content? other := by
  have hkeep := Node.isDir_withText now text
  by_cases hbelow : path <+: other
  · obtain ⟨rest, rfl⟩ := hbelow
    obtain ⟨node, hat, hnode⟩ := Option.map_eq_some_iff.1 hfile
    rw [content?_amend_append hkeep, hat]
    cases node with
    | dir stamps inside => cases hnode
    | file stamps old =>
      cases rest with
      | nil => simp [Node.withText, Node.content]
      | cons first rest =>
        have hnone : tree.content? (path ++ first :: rest) = none :=
          content?_append_eq_none (by simp [hfile]) (List.cons_ne_nil first rest)
        simp [Node.withText, hnone]
  · have hother : other ≠ path := fun he => hbelow (he ▸ List.prefix_refl _)
    rw [content?_amend_elsewhere hkeep hbelow, if_neg hother]

/-- Stamping a node leaves what every path holds. -/
theorem content?_amend_touched (now : Nat) (tree : FileTree) (path other : Path) :
    (tree.amend path (.touched now)).content? other = tree.content? other := by
  have hkeep := Node.isDir_touched now
  by_cases hbelow : path <+: other
  · obtain ⟨rest, rfl⟩ := hbelow
    rw [content?_amend_append hkeep, content?, at?_eq_root, at?_eq_root, Node.at?_append]
    cases tree.root.at? path with
    | none => rfl
    | some node => cases node <;> cases rest <;> rfl
  · exact content?_amend_elsewhere hkeep hbelow tree

end FileTree
end Shellbox
