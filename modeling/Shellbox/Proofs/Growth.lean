import Shellbox.Proofs.DeepCopy
import Shellbox.Proofs.Upload
/-!
# What an addition does to the stamps

Most edits only add: they put new nodes in free places and give files their texts. A node that is
there when such an edit begins is there when it ends, and `Node.Ages` says what became of it: a file
that was written is stamped, a directory that has new children behind its old ones is stamped, and
nothing else is. A node that was not there is stamped as new. `FileTree.Grows` says so of a whole tree.

Growth can be put together (`FileTree.Grows.trans`), for a node that is stamped twice at one time is
stamped once, and children that were added stay. So it is enough to look at the two changes that adding
is made of: a new node is pushed into a directory (`FileTree.grows_push`), or a file is changed in its
place (`FileTree.grows_amend_file`). Every edit that only adds is made of these (`Edit.GrowsBy`), and so
is the walk that makes missing directories, which builds what is missing first and then pushes it as a
whole (`Node.openDir_eq_push`).
-/

namespace Shellbox

/-! ### One node -/

namespace Node

/-- What becomes of a node at a time when nothing is taken away, where `written` says whether the step
writes a file in its place. -/
inductive Ages (now : Nat) (written : Prop) : Node → Node → Prop where
  /-- A file that is not written stays as it is. -/
  | file {stamps : Stamps} {text : String} :
    ¬written → Ages now written (.file stamps text) (.file stamps text)
  /-- A file that is written is stamped. -/
  | written {stamps : Stamps} {old : String} (new : String) :
    written → Ages now written (.file stamps old) (.file (stamps.touched now) new)
  /-- A directory with the same names in it keeps its stamps. -/
  | dir {stamps : Stamps} {inside inside' : Entries} :
    inside'.names = inside.names → Ages now written (.dir stamps inside) (.dir stamps inside')
  /-- A directory with more names behind the old ones is stamped. -/
  | relisted {stamps : Stamps} {inside inside' : Entries} (added : List String) :
    added ≠ [] → inside'.names = inside.names ++ added →
      Ages now written (.dir stamps inside) (.dir (stamps.touched now) inside')

/-- What is seen of a node without going into it. -/
def surface (node : Node) : Stamps × Content × Option (List String) :=
  (node.stamps, node.content, node.listed?)

/-- The node and all that is below it are stamped as made now. -/
def New (now : Nat) (node : Node) : Prop :=
  ∀ path found, node.at? path = some found → found.stamps = .fresh now

variable {now : Nat} {written first second : Prop} {old mid new : Node}

/-- What has happened to a node in two steps at the same time. -/
theorem Ages.trans (h : old.Ages now first mid) (h' : mid.Ages now second new) :
    old.Ages now (first ∨ second) new := by
  cases h with
  | file hfirst =>
    cases h' with
    | file hsecond => exact .file (not_or.2 ⟨hfirst, hsecond⟩)
    | written text hsecond => exact .written text (.inr hsecond)
  | written text hfirst =>
    cases h' with
    | file => exact .written text (.inl hfirst)
    | written text' => exact .written text' (.inl hfirst)
  | dir hnames =>
    cases h' with
    | dir hnames' => exact .dir (hnames'.trans hnames)
    | relisted added hne hnames' => exact .relisted added hne (hnames ▸ hnames')
  | relisted added hne hnames =>
    cases h' with
    | dir hnames' => exact .relisted added hne (hnames'.trans hnames)
    | relisted more hmore hnames' =>
      refine .relisted (added ++ more) (List.append_ne_nil_of_left_ne_nil hne more) ?_
      rw [hnames', hnames, List.append_assoc]

/-- A node that was made now and then changed now is stamped as made now. -/
theorem Ages.stamps_of_fresh (h : old.Ages now written new) (hold : old.stamps = .fresh now) :
    new.stamps = .fresh now := by
  cases h with
  | file | dir => exact hold
  | written | relisted => exact congrArg (Stamps.touched now) hold

/-- A node that is not written and looks the same has not changed. -/
theorem ages_of_surface (h : new.surface = old.surface) (hwritten : ¬written) :
    old.Ages now written new := by
  simp only [surface, Prod.mk.injEq] at h
  obtain ⟨hstamps, hcontent, hlisted⟩ := h
  cases old with
  | file stamps text =>
    cases new with
    | file stamps' text' =>
      cases hstamps
      cases hcontent
      exact .file hwritten
    | dir stamps' inside' => cases hcontent
  | dir stamps inside =>
    cases new with
    | file stamps' text' => cases hcontent
    | dir stamps' inside' =>
      cases hstamps
      exact .dir (Option.some.inj hlisted)

/-- No child shows on the surface of a directory but by its name. -/
theorem surface_replace (stamps : Stamps) (inside : Entries) (name : String) (child : Node) :
    surface (dir stamps (inside.replace name child)) = surface (dir stamps inside) :=
  congrArg (fun names => (stamps, Content.dir, some names)) (Entries.names_replace name child inside)

theorem new_of_leaf (hstamps : old.stamps = .fresh now)
    (hleaf : ∀ first rest, old.at? (first :: rest) = none) : old.New now := by
  intro path found hat
  cases path with
  | nil => rwa [← Option.some.inj hat]
  | cons first rest => rw [hleaf] at hat; cases hat

theorem new_renewed (now : Nat) (node : Node) : (node.renewed now).New now := by
  intro path found hat
  rw [at?_renewed] at hat
  obtain ⟨origin, -, rfl⟩ := Option.map_eq_some_iff.1 hat
  cases origin <;> rfl

end Node

/-! ### One tree -/

/-- The tree `after` is the tree `before` with what was added to it at a time, where `written` are the
paths at which files were written. -/
structure FileTree.Grows (before : FileTree) (now : Nat) (written : List Path) (after : FileTree) :
    Prop where
  /-- Every node that was there is there, and has aged. -/
  kept : ∀ path old, before.at? path = some old →
    ∃ new, after.at? path = some new ∧ old.Ages now (path ∈ written) new
  /-- Every node that was not there is new. -/
  made : ∀ path new, before.at? path = none → after.at? path = some new → new.stamps = .fresh now

namespace FileTree

variable {before mid after tree : FileTree} {now : Nat} {written first second : List Path}
  {path parent : Path} {name text : String} {node old new : Node}

theorem Grows.refl (now : Nat) (tree : FileTree) : tree.Grows now [] tree where
  kept _ old hold := ⟨old, hold, Node.ages_of_surface rfl List.not_mem_nil⟩
  made _ _ hnone hnew := by rw [hnone] at hnew; cases hnew

theorem Grows.trans (h : before.Grows now first mid) (h' : mid.Grows now second after) :
    before.Grows now (first ++ second) after where
  kept path old hold := by
    obtain ⟨between, hbetween, hages⟩ := h.kept path old hold
    obtain ⟨new, hnew, hages'⟩ := h'.kept path between hbetween
    refine ⟨new, hnew, ?_⟩
    rw [List.mem_append]
    exact hages.trans hages'
  made path new hnone hnew := by
    cases hmid : mid.at? path with
    | none => exact h'.made path new hmid hnew
    | some between =>
      obtain ⟨new', hnew', hages⟩ := h'.kept path between hmid
      obtain rfl : new = new' := Option.some.inj (hnew.symm.trans hnew')
      exact hages.stamps_of_fresh (h.made path between hnone hmid)

/-- What looks the same as before has not changed. -/
theorem exists_ages_of_surface {written : Prop}
    (h : (after.at? path).map Node.surface = (before.at? path).map Node.surface)
    (hold : before.at? path = some old) (hwritten : ¬written) :
    ∃ new, after.at? path = some new ∧ old.Ages now written new := by
  rw [hold, Option.map_some, Option.map_eq_some_iff] at h
  obtain ⟨new, hnew, hsurface⟩ := h
  exact ⟨new, hnew, Node.ages_of_surface hsurface hwritten⟩

/-- What was not there and looks the same as before is not there. -/
theorem at?_eq_none_of_surface
    (h : (after.at? path).map Node.surface = (before.at? path).map Node.surface)
    (hnone : before.at? path = none) : after.at? path = none := by
  rwa [hnone, Option.map_none, Option.map_eq_none_iff] at h

theorem content?_of_at? (h : tree.at? path = some node) :
    tree.content? path = some node.content := by
  rw [content?, h]
  rfl

/-- A new node is pushed into a directory. -/
theorem grows_push (hdir : tree.content? parent = some .dir)
    (hfree : tree.content? (parent ++ [name]) = none) (hnode : node.New now) :
    tree.Grows now [] (tree.amend parent (.relisted now (·.push name node))) := by
  have helsewhere : ∀ {other : Path}, ¬parent ++ [name] <+: other → other ≠ parent →
      ((tree.amend parent (.relisted now (·.push name node))).at? other).map Node.surface =
        (tree.at? other).map Node.surface := fun hbelow hne =>
    map_at?_relisted Node.surface_replace
      (fun entries _ h => Entries.find?_push_of_ne h node entries) hbelow hne tree
  obtain ⟨inside, hinside⟩ := directory_ok_iff_content?.2 hdir
  obtain ⟨stamps, hparent⟩ := directory_eq_ok_iff.1 hinside
  constructor
  · intro path old hold
    by_cases hpath : path = parent
    · subst hpath
      have happend := at?_amend_append (Node.isDir_relisted now (·.push name node)) tree path []
      rw [List.append_nil, hparent] at happend
      obtain rfl : Node.dir stamps inside = old := Option.some.inj (hparent.symm.trans hold)
      exact ⟨_, happend, .relisted [name] (List.cons_ne_nil name []) (Entries.names_push ..)⟩
    · have hbelow : ¬parent ++ [name] <+: path := fun hbelow => by
        have hnone := content?_eq_none_of_prefix hfree hbelow
        rw [content?_of_at? hold] at hnone
        cases hnone
      exact exists_ages_of_surface (helsewhere hbelow hpath) hold List.not_mem_nil
  · intro path new hnone hnew
    by_cases hbelow : parent ++ [name] <+: path
    · obtain ⟨rest, rfl⟩ := hbelow
      rw [List.append_assoc, List.singleton_append, at?_push_below now node hdir hfree] at hnew
      exact hnode rest new hnew
    · have hpath : path ≠ parent := by
        rintro rfl
        rw [hparent] at hnone
        cases hnone
      rw [at?_eq_none_of_surface (helsewhere hbelow hpath) hnone] at hnew
      cases hnew

/-- A file is changed in its place. -/
theorem grows_amend_file {change : Node → Node} (hkeep : ∀ node, (change node).isDir = node.isDir)
    (hchange : ∀ stamps old, ∃ new, change (.file stamps old) = .file (stamps.touched now) new)
    (hfile : tree.content? path = some (.file text)) :
    tree.Grows now [path] (tree.amend path change) := by
  have helsewhere : ∀ {other : Path}, ¬path <+: other →
      ((tree.amend path change).at? other).map Node.surface =
        (tree.at? other).map Node.surface := fun hbelow => by
    rw [at?_eq_root, root_amend hkeep]
    exact Node.map_at?_amend_elsewhere Node.surface_replace change hbelow tree.root
  obtain ⟨node, hnode, hcontent⟩ := Option.map_eq_some_iff.1 hfile
  cases node with
  | dir stamps inside => cases hcontent
  | file stamps old =>
    obtain ⟨new, hnew⟩ := hchange stamps old
    have hafter : ∀ rest, (tree.amend path change).at? (path ++ rest) =
        (Node.file (stamps.touched now) new).at? rest := fun rest => by
      rw [at?_amend_append hkeep, hnode, Option.bind_some, hnew]
    constructor
    · intro other found hfound
      by_cases hbelow : path <+: other
      · obtain ⟨rest, rfl⟩ := hbelow
        cases rest with
        | nil =>
          rw [List.append_nil, hnode] at hfound
          cases hfound
          exact ⟨_, hafter [], .written new (by simp)⟩
        | cons first rest =>
          have hnone : tree.content? (path ++ first :: rest) = none :=
            content?_append_eq_none (by simp [hfile]) (List.cons_ne_nil first rest)
          rw [content?_of_at? hfound] at hnone
          cases hnone
      · have hother : other ∉ [path] := fun hmem =>
          hbelow (List.mem_singleton.1 hmem ▸ List.prefix_refl path)
        exact exists_ages_of_surface (helsewhere hbelow) hfound hother
    · intro other found hnone hfound
      by_cases hbelow : path <+: other
      · obtain ⟨rest, rfl⟩ := hbelow
        rw [hafter] at hfound
        cases rest with
        | nil => rw [List.append_nil, hnode] at hnone; cases hnone
        | cons first rest => cases hfound
      · rw [at?_eq_none_of_surface (helsewhere hbelow) hnone] at hfound
        cases hfound

end FileTree

/-! ### Making directories on the way -/

namespace Node

variable {now : Nat} {make : Bool} {seen path : Path} {node : Node} {opened : Entries}

/-- All that is made below a new directory is new. -/
theorem new_openDir (now : Nat) (seen path : Path) :
    ((dir (.fresh now) .nil).openDir now true seen path).2.New now := by
  induction path generalizing seen with
  | nil => exact new_of_leaf rfl fun _ _ => rfl
  | cons name rest ih =>
    rw [openDir_cons_none_make rfl]
    intro other found hat
    cases other with
    | nil => cases hat; rfl
    | cons first below =>
      rw [at?_cons_dir, Entries.find?_push] at hat
      obtain ⟨child, hchild, hfound⟩ := Option.bind_eq_some_iff.1 hat
      rw [show Entries.nil.find? first = none from rfl, Option.none_or] at hchild
      split_ifs at hchild
      cases hchild
      exact ih (seen ++ [name]) below found hfound

/-- A walk that succeeds has changed nothing, or has pushed one new node into a directory. -/
theorem openDir_eq_push (h : (node.openDir now make seen path).1 = .ok opened) :
    (node.openDir now make seen path).2 = node ∨
      ∃ front name made, (node.openDir now make seen path).2 =
          node.amend (.relisted now (·.push name made)) front ∧
        (node.at? front).map content = some .dir ∧ node.at? (front ++ [name]) = none ∧
        made.New now := by
  induction path generalizing node seen with
  | nil => cases node <;> exact Or.inl rfl
  | cons name rest ih =>
    cases node with
    | file stamps text => rw [openDir_file] at h; cases h
    | dir stamps inside =>
      cases hname : inside.find? name with
      | some child =>
        rw [openDir_cons_some hname] at h ⊢
        rcases ih h with hsame | ⟨front, last, made, hpush, hdir, hfree, hmade⟩
        · exact Or.inl (by rw [hsame, Entries.replace_of_find? hname])
        · refine Or.inr ⟨name :: front, last, made, ?_, ?_, ?_, hmade⟩
          · rw [hpush, amend, hname]
          · rwa [at?_cons_dir, hname]
          · rwa [List.cons_append, at?_cons_dir, hname]
      | none =>
        cases make with
        | false => rw [openDir_cons_none hname] at h; cases h
        | true =>
          refine Or.inr ⟨[], name, _, congrArg Prod.snd (openDir_cons_none_make hname), rfl, ?_,
            new_openDir now (seen ++ [name]) rest⟩
          rw [List.nil_append, at?_cons_dir, hname]
          rfl

end Node

/-! ### Edits that only add -/

namespace Edit

variable {α β : Type} {now : Nat} {first second written : List Path} {make parents existOk : Bool}
  {parent path source target : Path} {name kind text : String} {node : Node} {tree : FileTree}

/-- When the edit succeeds, the tree has grown by what the edit adds at a time, with files written at
the given paths. -/
def GrowsBy (now : Nat) (written : List Path) (edit : Edit α) : Prop :=
  ∀ tree value, edit.outcome tree = .ok value → tree.Grows now written (edit.after tree)

theorem GrowsBy.quiet {edit : Edit α} (hquiet : ∀ tree, edit.after tree = tree) :
    GrowsBy now [] edit := fun tree _ _ => by
  rw [hquiet]
  exact .refl now tree

theorem GrowsBy.pure (value : α) : GrowsBy now [] (Pure.pure value : Edit α) :=
  GrowsBy.quiet fun _ => rfl

theorem GrowsBy.throw (fault : Fault) : GrowsBy now written (MonadExcept.throw fault : Edit α) :=
  fun _ _ h => by cases h

theorem GrowsBy.bind {edit : Edit α} {next : α → Edit β} (hedit : GrowsBy now first edit)
    (hnext : ∀ value, GrowsBy now second (next value)) :
    GrowsBy now (first ++ second) (edit >>= next) := by
  intro tree result h
  rw [outcome_bind] at h
  rw [after_bind]
  cases hvalue : edit.outcome tree with
  | error fault => rw [hvalue] at h; cases h
  | ok value =>
    rw [hvalue] at h
    exact (hedit tree value hvalue).trans (hnext value _ result h)

/-- What comes after an edit that writes no file. -/
theorem GrowsBy.bind_unwritten {edit : Edit α} {next : α → Edit β} (hedit : GrowsBy now [] edit)
    (hnext : ∀ value, GrowsBy now written (next value)) : GrowsBy now written (edit >>= next) :=
  hedit.bind hnext

/-- What comes after an edit that writes one file. -/
theorem GrowsBy.bind_written {edit : Edit α} {next : α → Edit β} (hedit : GrowsBy now [path] edit)
    (hnext : ∀ value, GrowsBy now written (next value)) :
    GrowsBy now (path :: written) (edit >>= next) :=
  hedit.bind hnext

/-- What comes after a quiet edit. -/
theorem GrowsBy.bind_quiet {edit : Edit α} {next : α → Edit β}
    (hquiet : ∀ tree, edit.after tree = tree) (hnext : ∀ value, GrowsBy now written (next value)) :
    GrowsBy now written (edit >>= next) :=
  (GrowsBy.quiet hquiet).bind_unwritten hnext

theorem growsBy_openDir : GrowsBy now [] (openDir now make path) := by
  intro tree opened h
  rw [outcome_openDir] at h
  rcases Node.openDir_eq_push h with hsame | ⟨front, name, made, hpush, hdir, hfree, hmade⟩
  · have hafter : (openDir now make path).after tree = tree :=
      root_injective (by rw [root_after_openDir, hsame])
    rw [hafter]
    exact .refl now tree
  · have hafter : (openDir now make path).after tree =
        tree.amend front (.relisted now (·.push name made)) := by
      apply root_injective
      rw [root_after_openDir, hpush, FileTree.root_amend (Node.isDir_relisted now _)]
    rw [hafter]
    exact FileTree.grows_push hdir (congrArg (Option.map Node.content) hfree) hmade

theorem growsBy_addChild (hnode : node.New now) : GrowsBy now [] (addChild now parent name node) := by
  intro tree _ h
  obtain ⟨hdir, hfree⟩ := outcome_addChild_eq_ok_iff.1 h
  rw [after_addChild_of_ok h]
  exact FileTree.grows_push hdir hfree hnode

theorem growsBy_ensureFile : GrowsBy now [] (ensureFile now parents path) := by
  rcases List.eq_nil_or_concat' path with rfl | ⟨parent, name, rfl⟩
  · exact GrowsBy.throw _
  · rw [ensureFile_append]
    refine growsBy_openDir.bind_unwritten fun inside => ?_
    unfold ensureIn
    split
    · exact GrowsBy.pure _
    · exact GrowsBy.throw _
    · exact growsBy_addChild (Node.new_of_leaf rfl fun _ _ => rfl)

/-- A file is seen to and then changed. -/
theorem growsBy_changeFile {change : Node → Node} (hkeep : ∀ node, (change node).isDir = node.isDir)
    (hchange : ∀ stamps old, ∃ new, change (.file stamps old) = .file (stamps.touched now) new) :
    GrowsBy now [path]
      (do ensureFile now parents path; amend path change; return path : Edit Path) := by
  intro tree value h
  rw [outcome_changeFile] at h
  cases hfile : (ensureFile now parents path).outcome tree with
  | error fault => rw [hfile] at h; cases h
  | ok _ =>
    obtain ⟨text, htext⟩ := exists_file_of_ensureFile hfile
    rw [after_changeFile_of_ok change hfile]
    exact (growsBy_ensureFile tree () hfile).trans (FileTree.grows_amend_file hkeep hchange htext)

theorem growsBy_touch : GrowsBy now [path] (touch now path) :=
  growsBy_changeFile (Node.isDir_touched now) fun _ old => ⟨old, rfl⟩

theorem growsBy_writeFile : GrowsBy now [path] (writeFile now path text parents) :=
  growsBy_changeFile (Node.isDir_withText now text) fun _ _ => ⟨text, rfl⟩

theorem growsBy_create : GrowsBy now [] (create now parent name kind) := by
  have hadd : ∀ {node : Node}, node.New now →
      GrowsBy now [] (addChild now parent name node >>= fun _ => Pure.pure (parent ++ [name])) :=
    fun hnode => (growsBy_addChild hnode).bind_unwritten fun _ => GrowsBy.pure _
  unfold create
  cases hname : isName name with
  | false => exact fun tree _ h => by simp at h
  | true =>
    simp only [Bool.not_true, Bool.false_eq_true, if_false]
    refine GrowsBy.bind_quiet (fun _ => rfl) fun inside => ?_
    cases hsome : (inside.find? name).isSome with
    | true => exact fun tree _ h => by simp at h
    | false =>
      simp only [Bool.false_eq_true, if_false]
      split
      · exact hadd (Node.new_of_leaf rfl fun _ _ => rfl)
      · exact hadd (Node.new_of_leaf rfl fun _ _ => rfl)
      · exact fun tree _ h => by simp at h

theorem growsBy_mkdir : GrowsBy now [] (mkdir now path parents existOk) := by
  unfold mkdir
  refine GrowsBy.bind_quiet (fun _ => rfl) fun tree => ?_
  split
  · exact GrowsBy.pure _
  · rcases List.eq_nil_or_concat' path with rfl | ⟨parent, name, rfl⟩
    · exact GrowsBy.throw _
    · rw [openParent_append, bind_assoc]
      simp only [pure_bind]
      exact growsBy_openDir.bind_unwritten fun _ => growsBy_create

theorem growsBy_copy : GrowsBy now [] (copy now source target) := by
  unfold copy
  refine GrowsBy.bind_quiet (fun _ => rfl) fun plan => ?_
  exact (growsBy_addChild (Node.new_renewed now plan.node)).bind_unwritten fun _ => GrowsBy.pure _

theorem growsBy_writeAll (files : List (Path × String)) :
    GrowsBy now (files.map Prod.fst) (writeAll now files) := by
  induction files with
  | nil => exact GrowsBy.pure _
  | cons file files ih =>
    have hrest : ∀ written, GrowsBy now (files.map Prod.fst)
        (do return written :: (← writeAll now files) : Edit (List Path)) := fun written => by
      rw [← List.append_nil (files.map Prod.fst)]
      exact GrowsBy.bind ih fun _ => GrowsBy.pure _
    exact growsBy_writeFile.bind_written hrest

theorem growsBy_upload (files : List (Path × String)) :
    GrowsBy now (files.map Prod.fst) (upload now files) := by
  rw [upload_eq]
  exact GrowsBy.bind_quiet (fun _ => after_checkAll) fun _ => growsBy_writeAll files

end Edit
end Shellbox
