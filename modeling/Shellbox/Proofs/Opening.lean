import Shellbox.Proofs.EditRun
/-!
# Opening a directory, made where it is missing

`openDir` walks to a directory and, if asked to, makes what is missing on the way. The first
missing directory is the point after which nothing can go wrong any more: what is made is empty, so
there is nothing left to run into. Hence an `openDir` that fails has made nothing
(`Node.openDir_of_error`), and one that succeeds either found its directory and changed nothing or
made it and gives no children (`Node.openDir_of_ok`).

What the tree holds afterwards is what it held before and, where it held nothing, a directory at
every prefix of the path (`content?_after_openDir`). With making allowed the walk succeeds exactly
if no prefix of the path is a file (`exists_outcome_openDir_eq_ok_iff`), without it the directory has
to be there as well (`exists_outcome_openDir_iff`). A walk that fails tells the first obstacle that it
meets (`FileTree.Obstacle`).
-/

namespace Shellbox
namespace Node

variable {now : Nat} {make : Bool} {seen rest path : Path} {name : String} {stamps : Stamps}
  {inside opened : Entries} {child node : Node} {fault : Fault}

theorem openDir_file (now : Nat) (make : Bool) (seen path : Path) (stamps : Stamps)
    (text : String) : (file stamps text).openDir now make seen path =
      (.error (.notADirectory seen), file stamps text) := by
  cases path <;> rfl

theorem openDir_cons_some (h : inside.find? name = some child) :
    (dir stamps inside).openDir now make seen (name :: rest) =
      ((child.openDir now make (seen ++ [name]) rest).1,
        dir stamps (inside.replace name (child.openDir now make (seen ++ [name]) rest).2)) := by
  rw [openDir, h]

theorem openDir_cons_none_make (h : inside.find? name = none) :
    (dir stamps inside).openDir now true seen (name :: rest) =
      (((dir (.fresh now) .nil).openDir now true (seen ++ [name]) rest).1,
        dir (stamps.touched now)
          (inside.push name ((dir (.fresh now) .nil).openDir now true (seen ++ [name]) rest).2)) := by
  rw [openDir, h]
  rfl

theorem openDir_cons_none (h : inside.find? name = none) :
    (dir stamps inside).openDir now false seen (name :: rest) =
      (.error (.missing (seen ++ [name])), dir stamps inside) := by
  rw [openDir, h]
  rfl

/-- A walk goes on from any node on its way. -/
theorem openDir_append {front : Path} (h : node.at? front = some child) :
    node.openDir now make seen (front ++ rest) =
      ((child.openDir now make (seen ++ front) rest).1,
        node.amend (fun _ => (child.openDir now make (seen ++ front) rest).2) front) := by
  induction front generalizing node seen with
  | nil =>
    obtain rfl := Option.some.inj h
    rw [List.append_nil]
    rfl
  | cons name front ih =>
    cases node with
    | file stamps text => cases h
    | dir stamps inside =>
      obtain ⟨next, hnext, hfront⟩ := Option.bind_eq_some_iff.1 h
      rw [List.cons_append, openDir_cons_some hnext, ih hfront, amend, hnext,
        List.append_assoc, List.singleton_append]

/-- Below an empty directory everything is made, and what is opened is empty. -/
theorem openDir_empty (now : Nat) (seen path : Path) (stamps : Stamps) :
    ((dir stamps .nil).openDir now true seen path).1 = .ok .nil := by
  induction path generalizing seen stamps with
  | nil => rfl
  | cons name rest ih =>
    rw [openDir_cons_none_make rfl]
    exact ih _ _

theorem isDir_openDir (now : Nat) (make : Bool) (seen path : Path) (node : Node) :
    (node.openDir now make seen path).2.isDir = node.isDir := by
  cases node with
  | file stamps text => rw [openDir_file]
  | dir stamps inside =>
    cases path with
    | nil => rfl
    | cons name rest =>
      cases h : inside.find? name with
      | some child => rw [openDir_cons_some h]; rfl
      | none =>
        cases make with
        | true => rw [openDir_cons_none_make h]; rfl
        | false => rw [openDir_cons_none h]

/-- A walk that fails has made nothing. -/
theorem openDir_of_error (h : (node.openDir now make seen path).1 = .error fault) :
    (node.openDir now make seen path).2 = node := by
  induction path generalizing node seen with
  | nil => cases node <;> rfl
  | cons name rest ih =>
    cases node with
    | file stamps text => rw [openDir_file]
    | dir stamps inside =>
      cases hname : inside.find? name with
      | some child =>
        rw [openDir_cons_some hname] at h ⊢
        rw [ih h, Entries.replace_of_find? hname]
      | none =>
        cases make with
        | true =>
          rw [openDir_cons_none_make hname, openDir_empty] at h
          cases h
        | false => rw [openDir_cons_none hname]

/-- A walk that succeeds has changed nothing, or what it opens was missing and is empty. -/
theorem openDir_of_ok (h : (node.openDir now make seen path).1 = .ok opened) :
    (node.openDir now make seen path).2 = node ∨ node.at? path = none ∧ opened = .nil := by
  induction path generalizing node seen with
  | nil => cases node <;> exact Or.inl rfl
  | cons name rest ih =>
    cases node with
    | file stamps text => rw [openDir_file] at h; cases h
    | dir stamps inside =>
      cases hname : inside.find? name with
      | some child =>
        rw [openDir_cons_some hname] at h ⊢
        rcases ih h with hsame | ⟨hmissing, hempty⟩
        · exact Or.inl (by rw [hsame, Entries.replace_of_find? hname])
        · exact Or.inr ⟨by rw [at?_cons_dir, hname]; exact hmissing, hempty⟩
      | none =>
        cases make with
        | true =>
          rw [openDir_cons_none_make hname, openDir_empty] at h
          exact Or.inr ⟨by rw [at?_cons_dir, hname]; rfl, (Except.ok.inj h).symm⟩
        | false => rw [openDir_cons_none hname] at h; cases h

/-- What a walk opens is the directory at its end. -/
theorem at?_openDir (h : (node.openDir now make seen path).1 = .ok opened) :
    ∃ stamps, (node.openDir now make seen path).2.at? path = some (dir stamps opened) := by
  induction path generalizing node seen with
  | nil =>
    cases node with
    | file stamps text => cases h
    | dir stamps inside => cases h; exact ⟨stamps, rfl⟩
  | cons name rest ih =>
    cases node with
    | file stamps text => rw [openDir_file] at h; cases h
    | dir stamps inside =>
      cases hname : inside.find? name with
      | some child =>
        rw [openDir_cons_some hname] at h ⊢
        rw [at?_cons_dir, Entries.find?_replace, if_pos rfl, hname]
        exact ih h
      | none =>
        cases make with
        | true =>
          rw [openDir_cons_none_make hname] at h ⊢
          rw [at?_cons_dir, Entries.find?_push, hname, if_pos rfl]
          exact ih h
        | false => rw [openDir_cons_none hname] at h; cases h

/-- After a walk that succeeds everything is as before, and there is a directory at every prefix of
the path that held nothing. -/
theorem content_openDir (h : (node.openDir now make seen path).1 = .ok opened) (other : Path) :
    ((node.openDir now make seen path).2.at? other).map content =
      ((node.at? other).map content).or (if other <+: path then some .dir else none) := by
  induction path generalizing node seen other with
  | nil =>
    cases node with
    | file stamps text => cases h
    | dir stamps inside => cases other <;> simp [openDir, content]
  | cons name rest ih =>
    cases node with
    | file stamps text => rw [openDir_file] at h; cases h
    | dir stamps inside =>
      cases other with
      | nil =>
        have hdir := isDir_openDir now make seen (name :: rest) (dir stamps inside)
        rw [at?_nil, at?_nil, Option.map_some, content_eq_dir_iff.2 hdir]
        rfl
      | cons first more =>
        have hway : first :: more <+: name :: rest ↔ first = name ∧ more <+: rest :=
          List.cons_prefix_cons
        cases hname : inside.find? name with
        | some child =>
          rw [openDir_cons_some hname] at h ⊢
          rw [at?_cons_dir, at?_cons_dir, Entries.find?_replace]
          by_cases hfirst : first = name
          · subst hfirst
            simpa [hname, hway] using ih h more
          · simp [hfirst, hway]
        | none =>
          cases make with
          | false => rw [openDir_cons_none hname] at h; cases h
          | true =>
            rw [openDir_cons_none_make hname] at h ⊢
            rw [at?_cons_dir, at?_cons_dir, Entries.find?_push]
            by_cases hfirst : first = name
            · subst hfirst
              rw [hname, if_pos rfl, Option.none_or, Option.bind_some, ih h more]
              cases more <;> simp [hway, content, Entries.find?]
            · simp [hfirst, Ne.symm hfirst, hway]

/-- When making is allowed, only a file on the path can be in the way. -/
theorem exists_openDir_eq_ok_iff :
    (∃ opened, (node.openDir now true seen path).1 = .ok opened) ↔
      ∀ front, front <+: path → ∀ text, (node.at? front).map content ≠ some (.file text) := by
  induction path generalizing node seen with
  | nil => cases node <;> simp [openDir, content]
  | cons name rest ih =>
    rw [Path.forall_prefix_cons_iff]
    cases node with
    | file stamps text =>
      rw [openDir_file]
      constructor
      · rintro ⟨opened, h⟩
        cases h
      · exact fun h => absurd rfl (h.1 text)
    | dir stamps inside =>
      cases hname : inside.find? name with
      | some child =>
        rw [openDir_cons_some hname, ih]
        simp [hname, content]
      | none =>
        rw [openDir_cons_none_make hname, openDir_empty]
        simp [hname, content]

/-- When nothing may be made, the directory has to be there. -/
theorem exists_openDir_false_eq_ok_iff :
    (∃ opened, (node.openDir now false seen path).1 = .ok opened) ↔
      (node.at? path).map content = some .dir := by
  induction path generalizing node seen with
  | nil => cases node <;> simp [openDir, content]
  | cons name rest ih =>
    cases node with
    | file stamps text => simp [openDir_file]
    | dir stamps inside =>
      cases hname : inside.find? name with
      | some child =>
        rw [openDir_cons_some hname, ih]
        simp [hname]
      | none =>
        rw [openDir_cons_none hname]
        simp [hname]

/-- The first thing in the way of a walk down from a node that stands at `seen` to the directory at
the end of a path: everything above it is a directory, and it is a file, or it is missing and not to
be made. -/
def Obstacle (make : Bool) (seen path : Path) (node : Node) (fault : Fault) : Prop :=
  ∃ front, front <+: path ∧
    (∀ above, above <+: front → above ≠ front → (node.at? above).map content = some .dir) ∧
    ((∃ text, (node.at? front).map content = some (.file text)) ∧
        fault = .notADirectory (seen ++ front) ∨
      (node.at? front).map content = none ∧ make = false ∧ fault = .missing (seen ++ front))

theorem obstacle_file {text : String} :
    (file stamps text).Obstacle make seen path fault ↔ fault = .notADirectory seen := by
  constructor
  · rintro ⟨front, -, habove, hfault⟩
    cases front with
    | nil => simpa [content] using hfault
    | cons name rest =>
      cases habove [] List.nil_prefix (List.cons_ne_nil name rest).symm
  · rintro rfl
    refine ⟨[], List.nil_prefix, fun above habove hne => absurd (List.prefix_nil.1 habove) hne, ?_⟩
    exact Or.inl ⟨⟨text, rfl⟩, by rw [List.append_nil]⟩

theorem not_obstacle_nil : ¬(dir stamps inside).Obstacle make seen [] fault := by
  rintro ⟨front, hfront, -, hfault⟩
  rw [List.prefix_nil.1 hfront] at hfault
  simp [content] at hfault

/-- In a directory the obstacle is the child of the next name, if it is missing, or an obstacle to the
walk from there. -/
theorem obstacle_cons :
    (dir stamps inside).Obstacle make seen (name :: rest) fault ↔
      match inside.find? name with
      | some child => child.Obstacle make (seen ++ [name]) rest fault
      | none => make = false ∧ fault = .missing (seen ++ [name]) := by
  have hroot : ¬((∃ text, ((dir stamps inside).at? []).map content = some (.file text)) ∧
        fault = .notADirectory (seen ++ []) ∨
      ((dir stamps inside).at? []).map content = none ∧ make = false ∧
        fault = .missing (seen ++ [])) := by simp [content]
  cases hname : inside.find? name with
  | some child =>
    have hbelow : ∀ front, (dir stamps inside).at? (name :: front) = child.at? front := fun front => by
      rw [at?_cons_dir, hname, Option.bind_some]
    constructor
    · rintro ⟨front, hfront, habove, hfault⟩
      rcases List.prefix_cons_iff.1 hfront with rfl | ⟨below, rfl, hrest⟩
      · exact absurd hfault hroot
      · refine ⟨below, hrest, fun above hprefix hne => ?_, ?_⟩
        · rw [← hbelow]
          exact habove _ (List.cons_prefix_cons.2 ⟨rfl, hprefix⟩) (by simpa using hne)
        · simpa [hname] using hfault
    · rintro ⟨front, hfront, habove, hfault⟩
      refine ⟨name :: front, List.cons_prefix_cons.2 ⟨rfl, hfront⟩, fun above hprefix hne => ?_, ?_⟩
      · rcases List.prefix_cons_iff.1 hprefix with rfl | ⟨upper, rfl, hupper⟩
        · rfl
        · rw [hbelow]
          exact habove upper hupper (by simpa using hne)
      · simpa [hname] using hfault
  | none =>
    have hbelow : ∀ front, (dir stamps inside).at? (name :: front) = none := fun front => by
      rw [at?_cons_dir, hname, Option.bind_none]
    constructor
    · rintro ⟨front, hfront, habove, hfault⟩
      rcases List.prefix_cons_iff.1 hfront with rfl | ⟨below, rfl, -⟩
      · exact absurd hfault hroot
      · -- with a longer front the missing child would have to be a directory
        cases below with
        | nil => simpa [hname] using hfault
        | cons second more =>
          have hchild := habove [name] (List.cons_prefix_cons.2 ⟨rfl, List.nil_prefix⟩) (by simp)
          rw [hbelow] at hchild
          cases hchild
    · rintro ⟨hmake, rfl⟩
      refine ⟨[name], List.cons_prefix_cons.2 ⟨rfl, List.nil_prefix⟩, fun above hprefix hne => ?_, ?_⟩
      · rcases List.prefix_cons_iff.1 hprefix with rfl | ⟨upper, rfl, hupper⟩
        · rfl
        · exact absurd (by rw [List.prefix_nil.1 hupper]) hne
      · exact Or.inr ⟨by rw [hbelow]; rfl, hmake, rfl⟩

/-- **A walk fails at the first obstacle.** -/
theorem openDir_eq_error_iff :
    (node.openDir now make seen path).1 = .error fault ↔ node.Obstacle make seen path fault := by
  induction path generalizing node seen with
  | nil =>
    cases node with
    | file stamps text => simp [openDir_file, obstacle_file, eq_comm]
    | dir stamps inside => simp [openDir, not_obstacle_nil]
  | cons name rest ih =>
    cases node with
    | file stamps text => simp [openDir_file, obstacle_file, eq_comm]
    | dir stamps inside =>
      rw [obstacle_cons]
      cases hname : inside.find? name with
      | some child =>
        rw [openDir_cons_some hname]
        exact ih
      | none =>
        cases make with
        | true => simp [openDir_cons_none_make hname, openDir_empty]
        | false => simp [openDir_cons_none hname, eq_comm]

end Node

/-- The first thing in the way of a walk from the root to the directory at a path. -/
def FileTree.Obstacle (tree : FileTree) (make : Bool) (path : Path) (fault : Fault) : Prop :=
  tree.root.Obstacle make [] path fault

namespace Edit

variable {now : Nat} {make : Bool} {path : Path} {tree : FileTree} {opened : Entries}
  {fault : Fault}

/-- Opening a directory of a tree is the walk from its root. -/
theorem outcome_openDir (now : Nat) (make : Bool) (path : Path) (tree : FileTree) :
    (openDir now make path).outcome tree = (tree.root.openDir now make [] path).1 := by
  simp only [outcome, openDir, ExceptT.run, ExceptT.mk, StateT.run]
  split <;> simp [*]

theorem root_after_openDir (now : Nat) (make : Bool) (path : Path) (tree : FileTree) :
    ((openDir now make path).after tree).root = (tree.root.openDir now make [] path).2 := by
  have hdir : (tree.root.openDir now make [] path).2.isDir = true :=
    Node.isDir_openDir now make [] path tree.root
  simp only [after, openDir, ExceptT.run, ExceptT.mk, StateT.run]
  split
  · next outcome stamps inside h => rw [h]; rfl
  · next outcome stamps text h => rw [h] at hdir; cases hdir

theorem root_injective {first second : FileTree} (h : first.root = second.root) :
    first = second := by
  cases first
  cases second
  cases h
  rfl

theorem Atomic.openDir : Atomic (openDir now make path) := by
  intro tree fault h
  rw [outcome_openDir] at h
  apply root_injective
  rw [root_after_openDir, Node.openDir_of_error h]

/-- A directory is opened as it was found, or it was missing and is empty. -/
theorem after_openDir_of_ok (h : (openDir now make path).outcome tree = .ok opened) :
    (openDir now make path).after tree = tree ∨ tree.content? path = none ∧ opened = .nil := by
  rw [outcome_openDir] at h
  rcases Node.openDir_of_ok h with hsame | ⟨hmissing, hempty⟩
  · left
    apply root_injective
    rw [root_after_openDir, hsame]
  · right
    exact ⟨by rw [FileTree.content?, FileTree.at?_eq_root, hmissing]; rfl, hempty⟩

/-- The directory that was opened is there afterwards. -/
theorem directory_after_openDir (h : (openDir now make path).outcome tree = .ok opened) :
    ((openDir now make path).after tree).directory path = .ok opened := by
  rw [outcome_openDir] at h
  rw [FileTree.directory_eq_ok_iff, FileTree.at?_eq_root, root_after_openDir]
  exact Node.at?_openDir h

/-- After a directory was opened, every prefix of its path that held nothing holds a directory, and
all else is as before. -/
theorem content?_after_openDir (h : (openDir now make path).outcome tree = .ok opened)
    (other : Path) :
    ((openDir now make path).after tree).content? other =
      (tree.content? other).or (if other <+: path then some .dir else none) := by
  rw [outcome_openDir] at h
  rw [FileTree.content?, FileTree.at?_eq_root, root_after_openDir]
  exact Node.content_openDir h other

/-- When making is allowed, only a file on the path can be in the way. -/
theorem exists_outcome_openDir_eq_ok_iff :
    (∃ opened, (openDir now true path).outcome tree = .ok opened) ↔
      ∀ front, front <+: path → ∀ text, tree.content? front ≠ some (.file text) := by
  simp only [outcome_openDir]
  exact Node.exists_openDir_eq_ok_iff

/-- When nothing may be made, the directory has to be there. -/
theorem exists_outcome_openDir_false_iff :
    (∃ opened, (openDir now false path).outcome tree = .ok opened) ↔
      tree.content? path = some .dir := by
  simp only [outcome_openDir]
  exact Node.exists_openDir_false_eq_ok_iff

/-- A directory can be opened exactly if no file is in the way and it is there or may be made. -/
theorem exists_outcome_openDir_iff :
    (∃ opened, (openDir now make path).outcome tree = .ok opened) ↔
      (∀ front, front <+: path → ∀ text, tree.content? front ≠ some (.file text)) ∧
        (tree.content? path ≠ none ∨ make = true) := by
  cases make with
  | true => simp [exists_outcome_openDir_eq_ok_iff]
  | false =>
    rw [exists_outcome_openDir_false_iff]
    simp only [Bool.false_eq_true, or_false]
    constructor
    · intro hdir
      exact ⟨fun front hfront => FileTree.content?_ne_file_of_prefix hdir hfront, by simp [hdir]⟩
    · rintro ⟨hclear, hthere⟩
      cases hheld : tree.content? path with
      | none => exact absurd hheld hthere
      | some held =>
        cases held with
        | dir => rfl
        | file text => exact absurd hheld (hclear path (List.prefix_refl path) text)

theorem outcome_openDir_eq_error_iff :
    (openDir now make path).outcome tree = .error fault ↔ tree.Obstacle make path fault := by
  rw [outcome_openDir]
  exact Node.openDir_eq_error_iff

/-! ### One step at a time -/

section Steps

variable {seen : Path} {name : String} {stamps : Stamps} {inside : Entries}

/-- Opening a directory gives its children if its walk comes to them and leaves all as it was. -/
theorem run_openDir_dir (hat : tree.at? seen = some (.dir stamps inside)) :
    (openDir now make seen).run.run tree = (.ok inside, tree) := by
  have hopen : tree.root.openDir now make [] (seen ++ []) =
      (.ok inside, tree.root.amend (fun _ => .dir stamps inside) seen) := Node.openDir_append hat
  rw [List.append_nil] at hopen
  have houtcome : (openDir now make seen).outcome tree = .ok inside := by
    rw [outcome_openDir, hopen]
  rcases after_openDir_of_ok houtcome with hsame | ⟨hmissing, -⟩
  · exact Prod.ext houtcome hsame
  · rw [FileTree.content?, hat] at hmissing
    cases hmissing

/-- The walk that opens a directory fails at a node if opening it from there fails. -/
theorem run_openDir_error {rest : Path} {node : Node} (hat : tree.at? seen = some node)
    (hfault : (node.openDir now make seen rest).1 = .error fault) :
    (openDir now make (seen ++ rest)).run.run tree = (.error fault, tree) := by
  have houtcome : (openDir now make (seen ++ rest)).outcome tree = .error fault := by
    rw [outcome_openDir, Node.openDir_append hat]
    exact hfault
  exact Prod.ext houtcome (Atomic.openDir tree fault houtcome)

/-- A missing directory may be made before the walk goes on. -/
theorem run_openDir_made (hat : tree.at? seen = some (.dir stamps inside))
    (hname : inside.find? name = none) (rest : Path) :
    (openDir now true (seen ++ name :: rest)).run.run tree =
      (openDir now true (seen ++ name :: rest)).run.run
        (tree.amend seen (.relisted now (·.push name (.dir (.fresh now) .nil)))) := by
  have hroot := FileTree.root_amend (Node.isDir_relisted now (·.push name (.dir (.fresh now) .nil)))
    tree seen
  have hmade : (tree.amend seen (.relisted now (·.push name (.dir (.fresh now) .nil)))).at? seen =
      some (.dir (stamps.touched now) (inside.push name (.dir (.fresh now) .nil))) := by
    have happend := FileTree.at?_amend_append
      (Node.isDir_relisted now (·.push name (.dir (.fresh now) .nil))) tree seen []
    rwa [List.append_nil, hat] at happend
  have hfound : (inside.push name (.dir (.fresh now) .nil)).find? name =
      some (.dir (.fresh now) .nil) := by
    rw [Entries.find?_push, hname, Option.none_or, if_pos rfl]
  have hopen : tree.root.openDir now true [] (seen ++ name :: rest) =
      (tree.amend seen (.relisted now (·.push name (.dir (.fresh now) .nil)))).root.openDir now true []
        (seen ++ name :: rest) := by
    rw [Node.openDir_append hat, Node.openDir_append hmade, Node.openDir_cons_none_make hname,
      Node.openDir_cons_some hfound, Entries.replace_push_same hname, hroot]
    exact congrArg _ (Node.amend_amend_eq hat rfl).symm
  refine Prod.ext ?_ (root_injective ?_)
  · exact (outcome_openDir ..).trans ((congrArg Prod.fst hopen).trans (outcome_openDir ..).symm)
  · exact (root_after_openDir ..).trans ((congrArg Prod.snd hopen).trans (root_after_openDir ..).symm)

end Steps

end Edit
end Shellbox
