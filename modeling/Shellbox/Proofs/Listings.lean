import Shellbox.Proofs.WellNamed
/-!
# The names in a directory, in order

Beside what its paths hold, a tree has for each directory the names of its children in order
(`FileTree.listed?`). When the list of children of one directory is changed for one name, the listing
of that directory changes as its list of names does (`FileTree.listed?_relisted`), and no other
listing changes that is not at or below that name (`FileTree.listed?_relisted_elsewhere`).

The listing and the map of contents know of each other: a name is listed exactly if the path of the
directory followed by it holds something (`FileTree.mem_listed_iff`), and in a well-named tree it is
listed once.
-/

namespace Shellbox

/-- The names of the children of a directory, in order. A file has no children to list. -/
def Node.listed? : Node → Option (List String)
  | file .. => none
  | dir _ inside => some inside.names

namespace FileTree

/-- The names in the listing of the directory at a path, in order, if there is a directory. -/
def listed? (tree : FileTree) (path : Path) : Option (List String) :=
  (tree.list path).toOption.map (·.map Listed.name)

/-- The listing shows the names of the children. -/
theorem listed?_eq (tree : FileTree) (path : Path) :
    tree.listed? path = ((tree.at? path).map Node.listed?).join := by
  unfold listed? list
  cases hdir : tree.directory path with
  | ok inside =>
    obtain ⟨stamps, hat⟩ := directory_eq_ok_iff.1 hdir
    rw [hat]
    refine congrArg some ((List.map_map ..).trans (List.map_congr_left fun child _ => ?_))
    rcases child with ⟨name, _ | _⟩ <;> rfl
  | error fault =>
    cases hat : tree.at? path with
    | none => rfl
    | some node =>
      cases node with
      | file stamps text => rfl
      | dir stamps inside => rw [directory_eq_ok_iff.2 ⟨stamps, hat⟩] at hdir; cases hdir

variable {tree : FileTree} {path : Path} {names : List String} {name : String}

theorem listed?_eq_some_iff :
    tree.listed? path = some names ↔
      ∃ inside, tree.directory path = .ok inside ∧ inside.names = names := by
  simp only [directory_eq_ok_iff]
  rw [listed?_eq]
  constructor
  · intro h
    cases hat : tree.at? path with
    | none => rw [hat] at h; cases h
    | some node =>
      rw [hat] at h
      cases node with
      | file stamps text => cases h
      | dir stamps inside => exact ⟨inside, ⟨stamps, rfl⟩, Option.some.inj h⟩
  · rintro ⟨inside, ⟨stamps, hat⟩, rfl⟩
    rw [hat]
    rfl

/-- Exactly the directories have a listing. -/
theorem exists_listed?_iff :
    (∃ names, tree.listed? path = some names) ↔ tree.content? path = some .dir := by
  simp [listed?_eq_some_iff, ← directory_ok_iff_content?]

/-- What is listed is what the directory holds. -/
theorem mem_listed_iff (h : tree.listed? path = some names) :
    name ∈ names ↔ tree.content? (path ++ [name]) ≠ none := by
  obtain ⟨inside, hdir, rfl⟩ := listed?_eq_some_iff.1 h
  rw [content?_child hdir, Ne, Option.map_eq_none_iff, Entries.find?_eq_none_iff, not_not]

/-- In a well-named tree no name is listed twice. -/
theorem WellNamed.nodup_of_listed? (hwell : tree.WellNamed) (h : tree.listed? path = some names) :
    names.Nodup := by
  obtain ⟨inside, hdir, rfl⟩ := listed?_eq_some_iff.1 h
  obtain ⟨stamps, hat⟩ := directory_eq_ok_iff.1 hdir
  have hinside : inside.WellNamed := (hwell.of_at? hat).2
  exact hinside.nodup_names

/-! ### After a change -/

/-- The listing of a directory changes as its list of names does. -/
theorem listed?_relisted {change : Entries → Entries} (listing : List String → List String)
    (hnames : ∀ entries, (change entries).names = listing entries.names) (now : Nat)
    (tree : FileTree) (path : Path) :
    (tree.amend path (.relisted now change)).listed? path = (tree.listed? path).map listing := by
  have happend := at?_amend_append (Node.isDir_relisted now change) tree path []
  rw [List.append_nil] at happend
  rw [listed?_eq, listed?_eq, happend]
  cases tree.at? path with
  | none => rfl
  | some found =>
    cases found with
    | file stamps text => rfl
    | dir stamps inside => exact congrArg some (hnames inside)

/-- When only the child of one name is concerned, no other listing changes than that of the directory
and those at and below that child. -/
theorem listed?_relisted_elsewhere {now : Nat} {change : Entries → Entries}
    (hothers : ∀ entries other, other ≠ name → (change entries).find? other = entries.find? other)
    {other : Path} (h : ¬path ++ [name] <+: other) (hne : other ≠ path) (tree : FileTree) :
    (tree.amend path (.relisted now change)).listed? other = tree.listed? other := by
  have hview : ∀ stamps (inside : Entries) name child,
      Node.listed? (.dir stamps (inside.replace name child)) = Node.listed? (.dir stamps inside) :=
    fun _ inside name child => congrArg some (Entries.names_replace name child inside)
  rw [listed?_eq, listed?_eq, map_at?_relisted hview hothers h hne]

/-- A directory into which a child was pushed lists it behind the others. -/
theorem listed?_push (h : tree.listed? path = some names) (now : Nat) (name : String)
    (node : Node) :
    (tree.amend path (.relisted now (·.push name node))).listed? path =
      some (names ++ [name]) := by
  rw [listed?_relisted (· ++ [name]) (Entries.names_push name node), h]
  rfl

/-- Pushing a child shows in no other listing than that of its directory and those below it. -/
theorem listed?_push_elsewhere {other : Path} (h : ¬path ++ [name] <+: other) (hne : other ≠ path)
    (now : Nat) (node : Node) (tree : FileTree) :
    (tree.amend path (.relisted now (·.push name node))).listed? other = tree.listed? other :=
  listed?_relisted_elsewhere (fun entries _ h => Entries.find?_push_of_ne h node entries) h hne tree

/-- A directory out of which a child was taken lists the others. -/
theorem listed?_erase (now : Nat) (name : String) (tree : FileTree) (path : Path) :
    (tree.amend path (.relisted now (·.erase name))).listed? path =
      (tree.listed? path).map (·.erase name) :=
  listed?_relisted (·.erase name) (Entries.names_erase name) now tree path

theorem listed?_erase_elsewhere {other : Path} (h : ¬path ++ [name] <+: other) (hne : other ≠ path)
    (now : Nat) (tree : FileTree) :
    (tree.amend path (.relisted now (·.erase name))).listed? other = tree.listed? other :=
  listed?_relisted_elsewhere (fun entries _ h => Entries.find?_erase_of_ne h entries) h hne tree

end FileTree
end Shellbox
