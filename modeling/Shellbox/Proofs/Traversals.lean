import Shellbox.Proofs.Listings
import Shellbox.Proofs.TreePaths
import Shellbox.Shell.Dispatch
/-!
# The ways through a tree

There are four ways to ask a tree what is at a path and below: the walk, the files of the whole
subtree, the files directly in a directory, and the command `find`. Each has a recursion or a loop of
its own. All of them come down to the walk.

The walk is determined by three facts. It lists what the paths at and below its start lead to
(`Node.WellNamed.mem_walk_iff`), no path twice (`Node.WellNamed.nodup_walk`), and in the order
`FileTree.Precedes`: a directory comes before what is in it, and where two paths part, the one goes
first whose name is listed first in the directory where they part (`Node.WellNamed.pairwise_walk`).
The other three leave entries out and change no order: the files are those entries of the walk that
are files (`Entries.files_deep`), the files of a directory those of its listing
(`FileTree.map_fst_files_shallow`), and `find` is a filter of the walk (`Shell.find_eq_filter`).
`FileTree.traversals_agree` puts these together.
-/

namespace Shellbox

/-- The path and the text of a walked entry that is a file. -/
def fileOf? : Path × Node → Option (Path × String)
  | (path, .file _ text) => some (path, text)
  | (_, .dir ..) => none

/-- The paths of the entries that are files are the paths of the entries that are no directories. -/
theorem map_fst_filterMap_fileOf? (walked : List (Path × Node)) :
    (walked.filterMap fileOf?).map Prod.fst =
      (walked.filter fun entry => !entry.2.isDir).map Prod.fst := by
  induction walked with
  | nil => rfl
  | cons entry walked ih =>
    obtain ⟨path, node⟩ := entry
    cases node with
    | file stamps text => exact congrArg (path :: ·) ih
    | dir stamps inside => exact ih

/-! ### The order of the walk -/

/-- Whether a walk through the tree comes to the first path before it comes to the second one: it lies
above it, or the two part in a directory that lists the way to the first one earlier. -/
def FileTree.Precedes (tree : FileTree) (first second : Path) : Prop :=
  (first <+: second ∧ first ≠ second) ∨
    ∃ front names earlier later, tree.listed? front = some names ∧
      [earlier, later].Sublist names ∧ front ++ [earlier] <+: first ∧ front ++ [later] <+: second

namespace Entries

variable {entries : Entries} {path top : Path} {found : Node}

/-- What is walked through below a directory lies below one of its children. -/
theorem WellNamed.exists_name_of_mem_walk (h : entries.WellNamed)
    (hmem : path ∈ (entries.walk top).map Prod.fst) :
    ∃ name ∈ entries.names, top ++ [name] <+: path := by
  obtain ⟨⟨_, found⟩, hlisted, rfl⟩ := List.mem_map.1 hmem
  obtain ⟨name, rest, hpath, hat⟩ := h.mem_walk_iff.1 hlisted
  obtain ⟨child, hfind, -⟩ := Option.bind_eq_some_iff.1 hat
  refine ⟨name, not_not.1 fun hnone => ?_, rest, ?_⟩
  · rw [find?_eq_none_iff.2 hnone] at hfind
    cases hfind
  · rw [hpath, List.append_assoc, List.singleton_append]

end Entries

/-- The order of the walk from a node of a tree, if it is known of the children of a directory. -/
theorem Node.WellNamed.pairwise_walk_of_inside {tree : FileTree} {node : Node} {top : Path}
    (h : node.WellNamed) (hinside : ∀ stamps inside, node = .dir stamps inside →
      ((inside.walk top).map Prod.fst).Pairwise tree.Precedes) :
    ((node.walk top).map Prod.fst).Pairwise tree.Precedes := by
  cases node with
  | file stamps text => exact List.pairwise_singleton ..
  | dir stamps inside =>
    rw [walk, List.map_cons, List.pairwise_cons]
    refine ⟨fun path hpath => ?_, hinside stamps inside rfl⟩
    have hwell : inside.WellNamed := h
    obtain ⟨name, -, hbelow⟩ := hwell.exists_name_of_mem_walk hpath
    refine Or.inl ⟨(List.prefix_append top [name]).trans hbelow, fun heq : top = path => ?_⟩
    have hlength := hbelow.length_le
    rw [← heq, List.length_append, List.length_singleton] at hlength
    omega

/-- The order of the walk through children of a directory, those behind the names `passed`. -/
theorem Entries.WellNamed.pairwise_walk {tree : FileTree} {entries : Entries} {top : Path}
    {passed : List String} (h : entries.WellNamed)
    (hlisted : tree.listed? top = some (passed ++ entries.names))
    (hchildren : ∀ name child, entries.find? name = some child →
      tree.at? (top ++ [name]) = some child) :
    ((entries.walk top).map Prod.fst).Pairwise tree.Precedes := by
  induction entries using deepInduction generalizing top passed with
  | nil => exact List.Pairwise.nil
  | cons name node rest ihInside ih =>
    obtain ⟨-, hnew, hnode, hrest⟩ := wellNamed_cons.1 h
    rw [names_cons] at hlisted
    have hat : tree.at? (top ++ [name]) = some node :=
      hchildren name node (by rw [find?_cons, if_pos rfl])
    have hfirst : ((node.walk (top ++ [name])).map Prod.fst).Pairwise tree.Precedes := by
      refine hnode.pairwise_walk_of_inside fun stamps inside heq => ?_
      subst heq
      have hlistedInside : tree.listed? (top ++ [name]) = some ([] ++ inside.names) := by
        rw [FileTree.listed?_eq, hat]
        rfl
      refine ihInside stamps inside rfl hnode hlistedInside fun below child hchild => ?_
      rw [FileTree.at?_eq_root, Node.at?_append, ← FileTree.at?_eq_root, hat, Option.bind_some,
        Node.at?_cons_dir, hchild]
      rfl
    have hothers : ((rest.walk top).map Prod.fst).Pairwise tree.Precedes := by
      have hlistedRest : tree.listed? top = some ((passed ++ [name]) ++ rest.names) := by
        rwa [List.append_assoc, List.singleton_append]
      refine ih hrest hlistedRest fun other child hchild => ?_
      have hother : name ≠ other := by
        rintro rfl
        rw [find?_eq_none_iff.2 hnew] at hchild
        cases hchild
      exact hchildren other child (by rw [find?_cons, if_neg hother, hchild])
    rw [walk_cons, List.map_append, List.pairwise_append]
    refine ⟨hfirst, hothers, fun path hpath other hother => Or.inr ?_⟩
    -- a path through this child, and one through a child that is listed later
    obtain ⟨⟨_, found⟩, hwalked, rfl⟩ := List.mem_map.1 hpath
    obtain ⟨below, hbelow, -⟩ := hnode.mem_walk_iff.1 hwalked
    obtain ⟨later, hlater, hway⟩ := hrest.exists_name_of_mem_walk hother
    have horder : [name, later].Sublist (name :: rest.names) :=
      (List.singleton_sublist.2 hlater).cons_cons name
    exact ⟨top, _, name, later, hlisted, horder.trans (List.sublist_append_right ..), ⟨below, hbelow.symm⟩,
      hway⟩

/-- **The walk goes through directories from above and through children in order.** -/
theorem Node.WellNamed.pairwise_walk {tree : FileTree} {node : Node} {top : Path}
    (h : node.WellNamed) (hat : tree.at? top = some node) :
    ((node.walk top).map Prod.fst).Pairwise tree.Precedes := by
  refine h.pairwise_walk_of_inside fun stamps inside heq => ?_
  subst heq
  have hlisted : tree.listed? top = some ([] ++ inside.names) := by
    rw [FileTree.listed?_eq, hat]
    rfl
  refine Entries.WellNamed.pairwise_walk h hlisted fun name child hchild => ?_
  rw [FileTree.at?_eq_root, Node.at?_append, ← FileTree.at?_eq_root, hat, Option.bind_some,
    Node.at?_cons_dir, hchild]
  rfl

/-! ### Files -/

namespace Entries

theorem files_cons (deep : Bool) (top : Path) (name : String) (node : Node) (rest : Entries) :
    (cons name node rest).files deep top =
      (match node with
        | .file _ text => [(top ++ [name], text)]
        | .dir _ inside => if deep then inside.files deep (top ++ [name]) else []) ++
      rest.files deep top := by
  cases node <;> rfl

/-- The files below a directory are the files that the walk comes to. -/
theorem files_deep (top : Path) (entries : Entries) :
    entries.files true top = (entries.walk top).filterMap fileOf? := by
  induction entries using deepInduction generalizing top with
  | nil => rfl
  | cons name node rest ihInside ih =>
    rw [files_cons, walk_cons, List.filterMap_append, ih]
    cases node with
    | file stamps text => rfl
    | dir stamps inside => exact congrArg (· ++ _) (ihInside stamps inside rfl _)

/-- The files directly in a directory are its children that are files. -/
theorem files_shallow (top : Path) (entries : Entries) :
    entries.files false top =
      (entries.toList.map fun child => (top ++ [child.1], child.2)).filterMap fileOf? := by
  induction entries using consInduction with
  | nil => rfl
  | cons name node rest ih =>
    rw [files_cons, toList_cons, ih]
    cases node <;> rfl

/-- The files directly in a directory come among those below it in the same order. -/
theorem files_shallow_sublist (top : Path) (entries : Entries) :
    (entries.files false top).Sublist (entries.files true top) := by
  induction entries using consInduction with
  | nil => exact List.Sublist.refl _
  | cons name node rest ih =>
    rw [files_cons, files_cons]
    cases node with
    | file stamps text => exact (List.Sublist.refl _).append ih
    | dir stamps inside => exact ih.trans (List.sublist_append_right ..)

end Entries

namespace FileTree

variable {tree : FileTree} {place : Path} {stamps : Stamps} {inside : Entries} {node : Node}
  {text : String}

theorem walk_of_resolve (h : tree.resolve place = .ok node) :
    tree.walk place = .ok (node.walk place) := by
  rw [walk, h]
  rfl

/-- A file is the one file at its path. -/
theorem files_of_file (h : tree.resolve place = .ok (.file stamps text)) (deep : Bool) :
    tree.files place deep = .ok [(place, text)] := by
  rw [files, h]
  rfl

theorem files_of_dir (h : tree.resolve place = .ok (.dir stamps inside)) (deep : Bool) :
    tree.files place deep = .ok (inside.files deep place) := by
  rw [files, h]
  rfl

/-- The files of a whole subtree are the files that the walk comes to. -/
theorem files_deep_of_resolve (h : tree.resolve place = .ok node) :
    tree.files place true = .ok ((node.walk place).filterMap fileOf?) := by
  cases node with
  | file stamps text => exact files_of_file h true
  | dir stamps inside =>
    rw [files_of_dir h, Entries.files_deep]
    rfl

/-- The files directly in a directory are the files of its listing. -/
theorem map_fst_files_shallow (h : tree.resolve place = .ok (.dir stamps inside)) :
    ∃ listed, tree.list place = .ok listed ∧
      (inside.files false place).map Prod.fst =
        (listed.filter fun entry => !entry.isDir).map Listed.path := by
  have hdir : tree.directory place = .ok inside :=
    directory_eq_ok_iff.2 ⟨stamps, resolve_eq_ok_iff.1 h⟩
  refine ⟨_, by rw [list, hdir]; rfl, ?_⟩
  rw [Entries.files_shallow, map_fst_filterMap_fileOf?]
  induction inside.toList with
  | nil => rfl
  | cons child rest ih =>
    obtain ⟨name, node⟩ := child
    cases node with
    | file stamps text => exact congrArg ((place ++ [name]) :: ·) ih
    | dir stamps inside => exact ih

end FileTree

/-! ### `find` -/

namespace Shell

/-- An operand of `find` that does not start with a hyphen is a starting point. -/
theorem findRequest_operand {operand : String} (h : operand.toList.head? ≠ some '-')
    (request : FindRequest) (rest : List String) :
    findRequest request (operand :: rest) =
      findRequest { request with paths := request.paths ++ [operand] } rest := by
  have hflag : ["-name", "-iname", "-type"].contains operand = false := by
    rw [Bool.eq_false_iff, Ne, List.contains_iff_mem]
    rintro hmem
    rcases List.mem_cons.1 hmem with rfl | hmem
    · exact h rfl
    rcases List.mem_cons.1 hmem with rfl | hmem
    · exact h rfl
    rw [List.mem_singleton.1 hmem] at h
    exact h rfl
  have hne : operand ≠ "-name" ∧ operand ≠ "-iname" ∧ operand ≠ "-type" := by
    simpa [not_or] using hflag
  rw [findRequest]
  · simp only [hflag, Bool.false_eq_true, if_false, h]
  all_goals simp [hne]

variable {tree : FileTree} {cwd : Path} {operand : String} {walked : List (Path × Node)}

/-- With nothing asked of the names, `find` shows what the walk from its operand comes to, or only the
directories of it, or only the files. -/
theorem find_eq_filter (hoperand : operand.toList.head? ≠ some '-')
    (hwalk : tree.walk (Path.readFrom cwd operand) = .ok walked) {flags : List String}
    (wanted : Option Bool)
    (hflags : findRequest { paths := [operand] } flags =
      .ok { paths := [operand], wantsDir := wanted }) :
    find tree cwd (operand :: flags) =
      Text.joinWith "\n"
        ((walked.filter fun entry => wanted.all (· == entry.2.isDir)).map (·.1.render)) := by
  have hrequest : findRequest {} (operand :: flags) =
      .ok { paths := [operand], wantsDir := wanted } :=
    (findRequest_operand hoperand {} flags).trans hflags
  have hwants : FindRequest.wants { paths := [operand], wantsDir := wanted } =
      fun entry => wanted.all (· == entry.2.isDir) := by
    funext entry
    exact Bool.and_true _
  simp only [find, hrequest, bind, Except.bind, pure, Except.pure, List.isEmpty_cons,
    Bool.false_eq_true, if_false, findEach, hwalk, hwants, List.append_nil]

/-- What `find` shows of a path that the walk from there knows as `walked`. -/
structure Session.Finds (session : Session) (operand : String) (walked : List (Path × Node)) :
    Prop where
  /-- Everything that the walk comes to. -/
  plain : ∀ now, Builtin.find.command.call now "find" [operand] session =
    (Text.joinWith "\n" (walked.map (·.1.render)), session)
  /-- With `-type f`, the files of the whole subtree. -/
  files : ∀ now, Builtin.find.command.call now "find" [operand, "-type", "f"] session =
    (Text.joinWith "\n" ((walked.filterMap fileOf?).map (·.1.render)), session)
  /-- With `-type d`, the directories. -/
  dirs : ∀ now, Builtin.find.command.call now "find" [operand, "-type", "d"] session =
    (Text.joinWith "\n" ((walked.filter (·.2.isDir)).map (·.1.render)), session)

end Shell

/-! ### All of them -/

namespace FileTree

/-- What the walk and the listings of files give at a path, `walked` being what the walk comes to. -/
structure Traversed (tree : FileTree) (place : Path) (walked : List (Path × Node)) : Prop where
  /-- The walk succeeds. -/
  walk : tree.walk place = .ok walked
  /-- It lists exactly what is at the path and below. -/
  mem_iff : ∀ path node, (path, node) ∈ walked ↔ place <+: path ∧ tree.resolve path = .ok node
  /-- It lists no path twice, written as a text or not. -/
  nodup : (walked.map (·.1.render)).Nodup
  /-- A directory comes before what is in it, and all of one child before the next child. -/
  ordered : (walked.map Prod.fst).Pairwise tree.Precedes
  /-- The files of the whole subtree are the files of the walk. -/
  deep : tree.files place true = .ok (walked.filterMap fileOf?)
  /-- The files at the path of a file are this file. -/
  shallow_file : ∀ stamps text, tree.resolve place = .ok (.file stamps text) →
    tree.files place false = .ok [(place, text)]
  /-- The files in a directory are those of its listing. -/
  shallow_dir : ∀ stamps inside, tree.resolve place = .ok (.dir stamps inside) →
    ∃ listed files, tree.list place = .ok listed ∧ tree.files place false = .ok files ∧
      files.map Prod.fst = (listed.filter fun entry => !entry.isDir).map Listed.path ∧
      files.Sublist (walked.filterMap fileOf?)
  /-- Files and directories make up the walk, each in the order of the walk. -/
  parted : ((walked.filterMap fileOf?).map (·.1.render) ++
      (walked.filter (·.2.isDir)).map (·.1.render)).Perm (walked.map (·.1.render)) ∧
    ((walked.filterMap fileOf?).map (·.1.render)).Sublist (walked.map (·.1.render)) ∧
    ((walked.filter (·.2.isDir)).map (·.1.render)).Sublist (walked.map (·.1.render))

variable {tree : FileTree} {place : Path} {node : Node}

/-- The written paths of the files of a walk. -/
theorem map_render_filterMap_fileOf? (walked : List (Path × Node)) :
    (walked.filterMap fileOf?).map (·.1.render) =
      (walked.filter fun entry => !entry.2.isDir).map (·.1.render) := by
  have hpaths := congrArg (List.map Path.render) (map_fst_filterMap_fileOf? walked)
  rwa [List.map_map, List.map_map] at hpaths

/-- In a well-named tree the ways from a path agree. -/
theorem WellNamed.traversed (h : tree.WellNamed) (hnode : tree.resolve place = .ok node) :
    tree.Traversed place (node.walk place) := by
  have hat := resolve_eq_ok_iff.1 hnode
  have hwell : node.WellNamed := (h.of_at? hat).2
  have hmem : ∀ path found, (path, found) ∈ node.walk place ↔
      place <+: path ∧ tree.resolve path = .ok found := by
    intro path found
    rw [hwell.mem_walk_iff, resolve_eq_ok_iff]
    constructor
    · rintro ⟨rest, rfl, hrest⟩
      rw [at?_eq_root, Node.at?_append, ← at?_eq_root, hat]
      exact ⟨List.prefix_append place rest, hrest⟩
    · rintro ⟨⟨rest, rfl⟩, hfound⟩
      rw [at?_eq_root, Node.at?_append, ← at?_eq_root, hat] at hfound
      exact ⟨rest, rfl, hfound⟩
  refine ⟨walk_of_resolve hnode, hmem, ?_, hwell.pairwise_walk hat, files_deep_of_resolve hnode,
    fun stamps text hfile => files_of_file hfile false, ?_, ?_, ?_, ?_⟩
  · have hproper : ∀ entry ∈ node.walk place, ∀ name ∈ entry.1, Edit.isName name :=
      fun entry hentry => (h.of_at? (resolve_eq_ok_iff.1 ((hmem _ _).1 hentry).2)).1
    have hrender := Path.nodup_map_render (List.forall_mem_map.2 hproper) (hwell.nodup_walk place)
    rwa [List.map_map] at hrender
  · intro stamps inside hdir
    obtain rfl : node = .dir stamps inside := Except.ok.inj (hnode.symm.trans hdir)
    obtain ⟨listed, hlisted, hfiles⟩ := map_fst_files_shallow hdir
    refine ⟨listed, _, hlisted, files_of_dir hdir false, hfiles, ?_⟩
    have hsublist := Entries.files_shallow_sublist place inside
    rwa [Entries.files_deep] at hsublist
  · rw [map_render_filterMap_fileOf?, ← List.map_append]
    refine List.Perm.map _ ((List.perm_append_comm).trans ?_)
    exact List.filter_append_perm _ _
  · rw [map_render_filterMap_fileOf?]
    exact List.filter_sublist.map _
  · exact List.filter_sublist.map _

/-- **The ways through a tree agree.** From a path where a tree that requests have made holds something,
the walk, the listings of files and, in every session on that tree, `find` go through the same nodes in
the same order. -/
theorem traversals_agree (requests : List Request)
    (hnode : (empty.afterRequests requests).resolve place = .ok node) :
    ∃ walked, (empty.afterRequests requests).Traversed place walked ∧
      ∀ (session : Shell.Session) (operand : String), session.tree = empty.afterRequests requests →
        session.locate operand = place → operand.toList.head? ≠ some '-' →
          session.Finds operand walked := by
  have hempty : empty.WellNamed := trivial
  have htraversed := (hempty.afterRequests requests).traversed hnode
  refine ⟨_, htraversed, fun session operand htree hplace hoperand => ?_⟩
  have hwalk : session.tree.walk (Path.readFrom session.cwd operand) = .ok (node.walk place) := by
    rw [htree]
    exact hplace ▸ htraversed.walk
  have hcall : ∀ now args output, Shell.find session.tree session.cwd args = output →
      Shell.Builtin.find.command.call now "find" args session = (output, session) := by
    rintro now args output rfl
    rfl
  have hfiles := map_render_filterMap_fileOf? (node.walk place)
  refine ⟨fun now => hcall now _ _ ?_, fun now => hcall now _ _ ?_, fun now => hcall now _ _ ?_⟩
  · rw [Shell.find_eq_filter hoperand hwalk none rfl]
    simp
  · rw [Shell.find_eq_filter hoperand hwalk (some false) rfl, hfiles]
    simp
  · rw [Shell.find_eq_filter hoperand hwalk (some true) rfl]
    simp

/-- A directory with a directory and a file in it, as seen from its neighbour: the file further down
comes first, since its directory does. -/
theorem nested_file_comes_first :
    let requests : List Request :=
      [⟨1, "/", .writeFile "a/b/x" "text" true⟩, ⟨2, "/a", .touch "y"⟩, ⟨3, "/", .mkdir "c" false false⟩]
    let tree := empty.afterRequests requests
    let session : Shell.Session := { Shell.Session.default with tree, cwd := ["c"] }
    session.locate "../a" = ["a"] ∧ tree.resolve ["a"] = .ok (.dir ⟨1, 2⟩
        (.dir "b" (.fresh 1) (.file "x" (.fresh 1) "text" .nil) (.file "y" (.fresh 2) "" .nil))) ∧
      tree.files ["a"] true = .ok [(["a", "b", "x"], "text"), (["a", "y"], "")] ∧
      (Shell.Builtin.find.command.call 4 "find" ["../a", "-type", "f"] session).1 =
        "/a/b/x\n/a/y" := by
  intro requests tree session
  have hlocate : session.locate "../a" = ["a"] := by decide +kernel
  have hnode : tree.resolve ["a"] = .ok (.dir ⟨1, 2⟩
      (.dir "b" (.fresh 1) (.file "x" (.fresh 1) "text" .nil) (.file "y" (.fresh 2) "" .nil))) := by
    decide +kernel
  obtain ⟨walked, htraversed, hfinds⟩ := traversals_agree requests hnode
  have hfound := hfinds session "../a" rfl hlocate (by decide)
  have hwalked : walked.filterMap fileOf? = [(["a", "b", "x"], "text"), (["a", "y"], "")] := by
    rw [← Except.ok.inj ((walk_of_resolve hnode).symm.trans htraversed.walk)]
    rfl
  refine ⟨hlocate, hnode, ?_, ?_⟩
  · rw [htraversed.deep, hwalked]
  · rw [hfound.files, hwalked]
    decide +kernel

end FileTree
end Shellbox
