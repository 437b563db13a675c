import Shellbox.Proofs.BatchOrder
import Shellbox.Proofs.CaseSearch
import Shellbox.Proofs.CommandEdits
import Shellbox.Proofs.JoinedText
import Shellbox.Proofs.Traversals
/-!
# Searching whole subtrees

`grep -r` finds what `grep` finds in each file by itself. A search below a path goes through the files that
the walk from there comes to (`FileTree.files_eq_filesWithin`), and a search at the written path of a file
through this file alone, since that text means the path in every working directory. The flags stand
anywhere among the arguments, and the operands are the other arguments in order
(`GrepRequest.ofArgs_eq`), so that the two searches are asked for the same text in the same way.

Below one path no file comes twice, and in a file no number, so a line of a file is gone through once for
each path at or above the file (`count_linesWithin`). As all that is shown is found among these lines, a
matching line is neither lost nor shown at another place (`Session.grep_file_by_file`).
-/

namespace Shellbox

namespace FileTree

variable {tree : FileTree} {place : Path} {file : Path × String}

/-- The files at a path and below it, in the order of the walk. -/
def filesWithin (tree : FileTree) (place : Path) : List (Path × String) :=
  ((tree.walk place).toOption.getD []).filterMap fileOf?

theorem filesWithin_of_at? {node : Node} (h : tree.at? place = some node) :
    tree.filesWithin place = (node.walk place).filterMap fileOf? := by
  rw [filesWithin, walk_of_resolve (resolve_eq_ok_iff.2 h)]
  rfl

theorem files_eq_filesWithin (h : tree.holds place = true) :
    tree.files place true = .ok (tree.filesWithin place) := by
  obtain ⟨node, hat⟩ := holds_iff.1 h
  rw [files_deep_of_resolve (resolve_eq_ok_iff.2 hat), filesWithin_of_at? hat]

/-- A file that can be read is there as a file. -/
theorem exists_resolve_of_fileText {text : String} (h : tree.fileText place = .ok text) :
    ∃ stamps, tree.resolve place = .ok (.file stamps text) := by
  obtain ⟨node, hat, hheld⟩ := Option.map_eq_some_iff.1 (fileText_eq_ok_iff.1 h)
  cases node with
  | dir stamps inside => cases hheld
  | file stamps text =>
    cases hheld
    exact ⟨stamps, resolve_eq_ok_iff.2 hat⟩

/-- Below a path that is there, the files are those that can be read. -/
theorem WellNamed.mem_filesWithin_iff (hnamed : tree.WellNamed) (h : tree.holds place = true) :
    file ∈ tree.filesWithin place ↔ place <+: file.1 ∧ tree.fileText file.1 = .ok file.2 := by
  obtain ⟨node, hat⟩ := holds_iff.1 h
  have htraversed := hnamed.traversed (resolve_eq_ok_iff.2 hat)
  obtain ⟨path, text⟩ := file
  rw [filesWithin_of_at? hat, List.mem_filterMap]
  constructor
  · rintro ⟨⟨_, found⟩, hmem, hfile⟩
    obtain ⟨hplace, hfound⟩ := (htraversed.mem_iff _ _).1 hmem
    cases found with
    | dir stamps inside => cases hfile
    | file stamps text =>
      cases hfile
      refine ⟨hplace, fileText_eq_ok_iff.2 ?_⟩
      rw [content?, resolve_eq_ok_iff.1 hfound]
      rfl
  · rintro ⟨hplace, htext⟩
    obtain ⟨stamps, hfound⟩ := exists_resolve_of_fileText htext
    exact ⟨_, (htraversed.mem_iff _ _).2 ⟨hplace, hfound⟩, rfl⟩

/-- Below a path no file comes twice. -/
theorem WellNamed.nodup_filesWithin (hnamed : tree.WellNamed) (h : tree.holds place = true) :
    ((tree.filesWithin place).map Prod.fst).Nodup := by
  obtain ⟨node, hat⟩ := holds_iff.1 h
  rw [filesWithin_of_at? hat, map_fst_filterMap_fileOf?]
  exact ((hnamed.of_at? hat).2.nodup_walk place).sublist (List.filter_sublist.map Prod.fst)

end FileTree

namespace Shell

variable {tree : FileTree} {cwd place : Path} {file : Path × String} {line : FileLine}
  {args paths : List String} {text : String}

/-! ### The lines below a path -/

/-- Whether a line is one of a file of a tree. -/
def FileLine.In (line : FileLine) (tree : FileTree) : Prop :=
  ∃ text, tree.fileText line.file = .ok text ∧ 1 ≤ line.number ∧
    (Text.lines text.toList)[line.number - 1]? = some line.text

theorem mem_linesOfFile_iff :
    line ∈ linesOfFile file ↔ line.file = file.1 ∧ 1 ≤ line.number ∧
      (Text.lines file.2.toList)[line.number - 1]? = some line.text := by
  obtain ⟨path, number, letters⟩ := line
  simp only [linesOfFile, List.mem_map, Prod.exists, List.mem_zipIdx_iff_le_and_getElem?_sub,
    FileLine.mk.injEq]
  constructor
  · rintro ⟨_, _, ⟨hnumber, hline⟩, rfl, rfl, rfl⟩
    exact ⟨rfl, hnumber, hline⟩
  · rintro ⟨rfl, hnumber, hline⟩
    exact ⟨letters, number, ⟨hnumber, hline⟩, rfl, rfl, rfl⟩

/-- In a file no number comes twice. -/
theorem nodup_linesOfFile (file : Path × String) : (linesOfFile file).Nodup := by
  refine List.Nodup.of_map FileLine.number ?_
  have hnumbers : (linesOfFile file).map FileLine.number =
      ((Text.lines file.2.toList).zipIdx 1).map Prod.snd := by
    rw [linesOfFile, List.map_map]
    rfl
  rw [hnumbers, List.zipIdx_map_snd]
  exact List.nodup_range'

/-- The lines that a search below a path goes through are the lines of the files there. -/
theorem mem_linesWithin_iff (hnamed : tree.WellNamed) (h : tree.holds place = true) :
    line ∈ (tree.filesWithin place).flatMap linesOfFile ↔ place <+: line.file ∧ line.In tree := by
  simp only [List.mem_flatMap, mem_linesOfFile_iff, hnamed.mem_filesWithin_iff h, FileLine.In]
  constructor
  · rintro ⟨⟨path, text⟩, ⟨hplace, htext⟩, rfl, hline⟩
    exact ⟨hplace, text, htext, hline⟩
  · rintro ⟨hplace, text, htext, hline⟩
    exact ⟨(line.file, text), ⟨hplace, htext⟩, rfl, hline⟩

theorem nodup_linesWithin (hnamed : tree.WellNamed) (h : tree.holds place = true) :
    ((tree.filesWithin place).flatMap linesOfFile).Nodup := by
  refine List.nodup_flatMap.2 ⟨fun file _ => nodup_linesOfFile file, ?_⟩
  refine (List.pairwise_map.1 (hnamed.nodup_filesWithin h)).imp fun hne line hfirst hsecond => ?_
  exact hne ((mem_linesOfFile_iff.1 hfirst).1.symm.trans (mem_linesOfFile_iff.1 hsecond).1)

/-- **Every line of a file is gone through once for each path at or above the file**, and nothing else
is. -/
theorem count_linesWithin (hnamed : tree.WellNamed)
    (h : ∀ path ∈ paths, tree.holds (Path.readFrom cwd path) = true) (hline : line.In tree) :
    ((paths.flatMap fun path => tree.filesWithin (Path.readFrom cwd path)).flatMap
        linesOfFile).count line =
      paths.countP fun path => (Path.readFrom cwd path).isPrefixOf line.file := by
  induction paths with
  | nil => rfl
  | cons path rest ih =>
    obtain ⟨hpath, hrest⟩ := List.forall_mem_cons.1 h
    -- below one path the line comes once, or not at all
    have hmem := @mem_linesWithin_iff tree _ line hnamed hpath
    rw [and_iff_left hline, ← List.isPrefixOf_iff_prefix] at hmem
    rw [List.flatMap_cons, List.flatMap_append, List.count_append, ih hrest, List.countP_cons,
      (nodup_linesWithin hnamed hpath).count, Nat.add_comm]
    simp only [hmem]

/-- A line is shown behind the path of its file, and so as more than nothing. -/
theorem FileLine.render_ne_empty (line : FileLine) (numbered : Bool) : line.render numbered ≠ "" := by
  intro hempty
  have hletters := congrArg String.toList hempty
  rw [render, String.toList_append, String.toList_append, String.toList_append,
    Path.toList_render] at hletters
  cases hletters

/-! ### Arguments -/

namespace GrepRequest

/-- The flags for searching whole subtrees, and those for looking for a pattern. -/
def deepFlags : List String := ["-r", "-R", "--recursive"]

def patternFlags : List String := ["-E", "--regex"]

/-- The arguments that are no flags: what to look for, and then where. -/
def operands (args : List String) : List String := args.filter fun arg => !flags.contains arg

/-- The arguments that are flags, but for those that ask for whole subtrees. -/
def otherFlags (args : List String) : List String :=
  args.filter fun arg => flags.contains arg && !deepFlags.contains arg

/-- **What arguments ask for** is told by the flags among them, wherever these stand, and by the other
arguments in order. -/
theorem ofArgs_eq (args : List String) :
    ofArgs args =
      { deep := args.any deepFlags.contains
        usesPattern := args.any patternFlags.contains
        ignoreCase := args.any ["-i", "--ignore-case"].contains
        numbered := args.any ["-n", "--line-number"].contains
        pattern := (operands args).head?
        paths := (operands args).tail } := by
  -- from the end, since an argument is taken on top of what those before it ask for
  induction args using List.reverseRecOn with
  | nil => rfl
  | append_singleton args arg ih =>
    have hstep : ofArgs (args ++ [arg]) = (ofArgs args).take arg := List.foldl_concat ..
    rw [hstep, ih]
    by_cases hflag : arg ∈ flags
    · have hsame : operands (args ++ [arg]) = operands args := by simp [operands, hflag]
      rw [hsame]
      simp only [flags, List.mem_cons, List.not_mem_nil, or_false] at hflag
      rcases hflag with rfl | rfl | rfl | rfl | rfl | rfl | rfl | rfl | rfl <;>
        simp [take, deepFlags, patternFlags]
    · have hnew : operands (args ++ [arg]) = operands args ++ [arg] := by simp [operands, hflag]
      rw [take_of_not_flag hflag, hnew]
      simp only [flags, List.mem_cons, List.not_mem_nil, or_false, not_or] at hflag
      cases operands args <;> simp [deepFlags, patternFlags, hflag]

/-- Behind flags, all arguments that are no flags are operands. -/
theorem operands_append {front rest : List String} (hfront : ∀ arg ∈ front, arg ∈ flags)
    (hrest : ∀ arg ∈ rest, arg ∉ flags) : operands (front ++ rest) = rest := by
  have hnone : operands front = [] := List.filter_eq_nil_iff.2 fun arg harg => by simp [hfront arg harg]
  have hall : operands rest = rest := List.filter_eq_self.2 fun arg harg => by simp [hrest arg harg]
  rw [operands, List.filter_append, ← operands, ← operands, hnone, hall, List.nil_append]

theorem not_mem_flags_of_mem_operands {arg : String} (h : arg ∈ operands args) : arg ∉ flags := by
  simpa using (List.mem_filter.1 h).2

theorem mem_flags_of_mem_otherFlags {arg : String} (h : arg ∈ otherFlags args) :
    arg ∈ flags ∧ arg ∉ deepFlags := by
  simpa using (List.mem_filter.1 h).2

/-- Which of the other flags are given depends neither on the operands nor on the flags for whole
subtrees. -/
theorem any_otherFlags_append {asked rest : List String}
    (hasked : ∀ flag ∈ asked, flag ∈ flags ∧ flag ∉ deepFlags) (hrest : ∀ arg ∈ rest, arg ∉ flags) :
    (otherFlags args ++ rest).any asked.contains = args.any asked.contains := by
  rw [Bool.eq_iff_iff, List.any_eq_true, List.any_eq_true]
  simp only [List.contains_iff_mem, List.mem_append, otherFlags, List.mem_filter]
  constructor
  · rintro ⟨arg, ⟨harg, -⟩ | harg, hmem⟩
    · exact ⟨arg, harg, hmem⟩
    · exact absurd (hasked arg hmem).1 (hrest arg harg)
  · rintro ⟨arg, harg, hmem⟩
    exact ⟨arg, Or.inl ⟨harg, by simpa using hasked arg hmem⟩, hmem⟩

/-- The other flags with the text and one path ask for the same, at this path alone. -/
theorem ofArgs_alone (hoperands : operands args = text :: paths) {path : String} (hpath : path ∉ flags) :
    ofArgs (otherFlags args ++ [text, path]) =
      { ofArgs args with deep := false, paths := [path] } := by
  have htext : text ∉ flags := not_mem_flags_of_mem_operands (hoperands ▸ List.mem_cons_self)
  have hrest : ∀ arg ∈ [text, path], arg ∉ flags := by simp [htext, hpath]
  have hdeep : (otherFlags args ++ [text, path]).any deepFlags.contains = false := by
    refine List.any_eq_false.2 fun arg harg hmem => ?_
    have hmem : arg ∈ deepFlags := by simpa using hmem
    rcases List.mem_append.1 harg with harg | harg
    · exact (mem_flags_of_mem_otherFlags harg).2 hmem
    · have hflags : ∀ flag ∈ deepFlags, flag ∈ flags := by decide
      exact hrest arg harg (hflags arg hmem)
  rw [ofArgs_eq, ofArgs_eq, hdeep, any_otherFlags_append (by decide) hrest,
    any_otherFlags_append (by decide) hrest, any_otherFlags_append (by decide) hrest,
    operands_append (fun arg harg => (mem_flags_of_mem_otherFlags harg).1) hrest, hoperands]
  rfl

end GrepRequest

/-! ### Searches -/

/-- There is nothing to complain about targets that are there, and are no directories where no whole
subtrees are searched. -/
theorem grepObstacle?_eq_none {deep : Bool}
    (h : ∀ path ∈ paths, tree.holds (Path.readFrom cwd path) = true ∧
      (deep = true ∨ tree.hasDir (Path.readFrom cwd path) = false)) :
    grepObstacle? tree cwd deep paths = none := by
  induction paths with
  | nil => rfl
  | cons path rest ih =>
    obtain ⟨⟨hholds, hkind⟩, hrest⟩ := List.forall_mem_cons.1 h
    rw [grepObstacle?, hholds, ih hrest]
    rcases hkind with rfl | hfile
    · simp
    · simp [hfile]

/-- A search of whole subtrees goes through the files within its targets. -/
theorem searchedLines_deep (h : ∀ path ∈ paths, tree.holds (Path.readFrom cwd path) = true) :
    searchedLines tree cwd true paths =
      (paths.flatMap fun path => tree.filesWithin (Path.readFrom cwd path)).flatMap linesOfFile := by
  rw [searchedLines, List.flatMap_assoc]
  refine List.flatMap_congr fun path hpath => ?_
  rw [FileTree.files_eq_filesWithin (h path hpath)]
  rfl

/-- The written path of a file means the file, wherever it is read. -/
theorem readFrom_render_of_fileText (hnamed : tree.WellNamed) (hread : tree.fileText place = .ok text)
    (cwd : Path) : Path.readFrom cwd place.render = place := by
  obtain ⟨stamps, hresolve⟩ := FileTree.exists_resolve_of_fileText hread
  exact Path.readFrom_render (hnamed.of_at? (FileTree.resolve_eq_ok_iff.1 hresolve)).1 cwd

/-- The written path of a file is no flag, since it starts with a slash. -/
theorem render_not_mem_flags (place : Path) : place.render ∉ GrepRequest.flags := by
  have hflags : ∀ flag ∈ GrepRequest.flags, flag.toList.head? = some '-' := by decide
  intro hmem
  have hfirst := hflags _ hmem
  rw [Path.toList_render] at hfirst
  cases hfirst

/-- A search at the path of a file goes through this file. -/
theorem searchedLines_file (hnamed : tree.WellNamed) (hread : tree.fileText file.1 = .ok file.2) :
    searchedLines tree cwd false [file.1.render] = linesOfFile file := by
  obtain ⟨stamps, hresolve⟩ := FileTree.exists_resolve_of_fileText hread
  rw [searchedLines, List.flatMap_singleton, readFrom_render_of_fileText hnamed hread,
    FileTree.files_of_file hresolve]
  exact List.flatMap_singleton ..

namespace Session

variable {session : Session}

/-- What `grep` finds with some arguments: this is its list of results, and one below the other they are
its output. The session stays as it is. -/
structure Greps (session : Session) (args results : List String) : Prop where
  /-- The list of results. -/
  found : grepEach session.tree session.cwd
      (textTest (GrepRequest.ofArgs args).ignoreCase ((GrepRequest.ofArgs args).pattern.getD "").toList)
      (GrepRequest.ofArgs args).deep (GrepRequest.ofArgs args).numbered
      (GrepRequest.ofArgs args).targets = .ok results
  /-- The output. -/
  output : ∀ now, Builtin.grep.command.call now "grep" args session =
    (Text.joinWith "\n" results, session)

/-- A search for a text finds its lines, if there is nothing to complain about. -/
theorem greps_of_searches (h : (GrepRequest.ofArgs args).Searches session.tree session.cwd text) :
    session.Greps args (((GrepRequest.ofArgs args).found session.tree session.cwd).map
      (FileLine.render (GrepRequest.ofArgs args).numbered)) :=
  ⟨grepEach_eq (holds_of_not_obstacle h.clear) _ _ _, fun now =>
    Command.call_of_answer rfl (grep_eq_found h) now "grep"⟩

section Runs

variable (hnamed : session.tree.WellNamed) (hplain : ∀ flag ∈ GrepRequest.patternFlags, flag ∉ args)
  (hoperands : GrepRequest.operands args = text :: paths)

include hplain in
theorem usesPattern_ofArgs : (GrepRequest.ofArgs args).usesPattern = false := by
  rw [GrepRequest.ofArgs_eq]
  refine List.any_eq_false.2 fun arg harg hmem => ?_
  exact hplain arg (by simpa using hmem) harg

include hplain hoperands in
/-- A search of whole subtrees finds the matching lines of the files within its targets. -/
theorem greps_deep (hdeep : ∃ flag ∈ GrepRequest.deepFlags, flag ∈ args) (hpaths : paths ≠ [])
    (hthere : ∀ path ∈ paths, session.tree.holds (session.locate path) = true) :
    session.Greps args
      (((paths.flatMap fun path => session.tree.filesWithin (session.locate path)).flatMap fun file =>
        (linesOfFile file).filter
          (textTest (GrepRequest.ofArgs args).ignoreCase text.toList ·.text)).map
            (FileLine.render (GrepRequest.ofArgs args).numbered)) := by
  have hrequest := GrepRequest.ofArgs_eq args
  rw [hoperands] at hrequest
  have hsubtrees : (GrepRequest.ofArgs args).deep = true := by
    obtain ⟨flag, hflag, hmem⟩ := hdeep
    rw [hrequest]
    exact List.any_eq_true.2 ⟨flag, hmem, by simpa using hflag⟩
  have hpattern : (GrepRequest.ofArgs args).pattern = some text := by rw [hrequest]; rfl
  have htargets : (GrepRequest.ofArgs args).targets = paths := by
    rw [GrepRequest.targets, hrequest, List.tail_cons, List.isEmpty_eq_false_iff.2 hpaths,
      if_neg Bool.false_ne_true]
  have hclear := @grepObstacle?_eq_none session.tree session.cwd paths true fun path hpath =>
    ⟨hthere path hpath, Or.inl rfl⟩
  have hsearches : (GrepRequest.ofArgs args).Searches session.tree session.cwd text :=
    ⟨hpattern, usesPattern_ofArgs hplain, fun _ => hsubtrees, by rw [hsubtrees, htargets, hclear]⟩
  have hfinds := greps_of_searches hsearches
  rwa [GrepRequest.found, hsubtrees, htargets, hpattern, searchedLines_deep hthere,
    List.filter_flatMap] at hfinds

include hnamed hplain hoperands in
/-- With the written path of a file in place of its targets, a search finds the matching lines of this
file. -/
theorem greps_alone {file : Path × String} (hread : session.tree.fileText file.1 = .ok file.2) :
    session.Greps (GrepRequest.otherFlags args ++ [text, file.1.render])
      (((linesOfFile file).filter
        (textTest (GrepRequest.ofArgs args).ignoreCase text.toList ·.text)).map
          (FileLine.render (GrepRequest.ofArgs args).numbered)) := by
  have hrequest := GrepRequest.ofArgs_alone hoperands (render_not_mem_flags file.1)
  have hpattern : (GrepRequest.ofArgs args).pattern = some text := by
    rw [GrepRequest.ofArgs_eq, hoperands]
    rfl
  have hfile := FileTree.fileText_eq_ok_iff.1 hread
  have hclear : grepObstacle? session.tree session.cwd false [file.1.render] = none := by
    refine grepObstacle?_eq_none (List.forall_mem_singleton.2 ?_)
    rw [readFrom_render_of_fileText hnamed hread]
    refine ⟨FileTree.holds_iff_content?.2 (by simp [hfile]), Or.inr (Bool.eq_false_iff.2 fun hdir => ?_)⟩
    rw [FileTree.hasDir_iff, hfile] at hdir
    cases hdir
  have hsearches : (GrepRequest.ofArgs (GrepRequest.otherFlags args ++ [text, file.1.render])).Searches
      session.tree session.cwd text := by
    rw [hrequest]
    exact ⟨hpattern, usesPattern_ofArgs hplain, fun hnil => absurd hnil (List.cons_ne_nil _ _), hclear⟩
  have hfinds := greps_of_searches hsearches
  rw [GrepRequest.found, hrequest] at hfinds
  simp only [hpattern, GrepRequest.targets, List.isEmpty_cons, Bool.false_eq_true, if_false,
    searchedLines_file hnamed hread] at hfinds
  exact hfinds

end Runs

/-- **Searching whole subtrees is searching file by file.** Let the arguments of `grep` ask for a text, in
whole subtrees and at some paths that are there; the flags stand anywhere, and none of them asks for a
pattern. The list of results is that of the files at the paths or below them, in the order of the paths and
of the walk, where each file is searched by itself: with the same other flags, the text and the written
path of the file. So the output is what these searches put out, one below the other, those left out that
put out nothing. A line that is in a file of the tree and passes the test is found once for each path at
or above its file, and no other line is found. How deeply calls may be nested, and so how deep a tree
can be gone through at all, is left aside. -/
theorem grep_file_by_file (hnamed : session.tree.WellNamed)
    (hdeep : ∃ flag ∈ GrepRequest.deepFlags, flag ∈ args)
    (hplain : ∀ flag ∈ GrepRequest.patternFlags, flag ∉ args)
    (hoperands : GrepRequest.operands args = text :: paths) (hpaths : paths ≠ [])
    (hthere : ∀ path ∈ paths, session.tree.holds (session.locate path) = true) :
    let files := paths.flatMap fun path => session.tree.filesWithin (session.locate path)
    let alone := fun file : Path × String => GrepRequest.otherFlags args ++ [text, file.1.render]
    let test := textTest (GrepRequest.ofArgs args).ignoreCase text.toList
    let found := fun file : Path × String => (linesOfFile file).filter (test ·.text)
    let results := fun file : Path × String =>
      (found file).map (FileLine.render (GrepRequest.ofArgs args).numbered)
    (∀ file ∈ files, session.Greps (alone file) (results file)) ∧
    session.Greps args (files.flatMap results) ∧
    (∀ now, (Builtin.grep.command.call now "grep" args session).1 =
      Text.joinWith "\n" ((files.map fun file =>
        (Builtin.grep.command.call now "grep" (alone file) session).1).filter (· ≠ ""))) ∧
    ∀ line : FileLine,
      (line.In session.tree ∧ test line.text = true →
        (files.flatMap found).count line =
          paths.countP fun path => (session.locate path).isPrefixOf line.file) ∧
      (¬(line.In session.tree ∧ test line.text = true) → line ∉ files.flatMap found) := by
  intro files alone test found results
  have hread : ∀ file ∈ files, session.tree.fileText file.1 = .ok file.2 := by
    intro file hfile
    obtain ⟨path, hpath, hmem⟩ := List.mem_flatMap.1 hfile
    exact ((hnamed.mem_filesWithin_iff (hthere path hpath)).1 hmem).2
  have halone : ∀ file ∈ files, session.Greps (alone file) (results file) :=
    fun file hfile => greps_alone hnamed hplain hoperands (hread file hfile)
  have hall : session.Greps args (files.flatMap results) := by
    have hdeep := greps_deep hplain hoperands hdeep hpaths hthere
    rwa [List.map_flatMap] at hdeep
  have hfound : files.flatMap found = (files.flatMap linesOfFile).filter (test ·.text) :=
    (List.filter_flatMap ..).symm
  refine ⟨halone, hall, fun now => ?_, fun line => ⟨fun hline => ?_, fun hline hmem => hline ?_⟩⟩
  · have hsaid : files.map (fun file =>
        (Builtin.grep.command.call now "grep" (alone file) session).1) =
          (files.map results).map (Text.joinWith "\n") := by
      rw [List.map_map]
      exact List.map_congr_left fun file hfile => by rw [(halone file hfile).output]; rfl
    have hpieces : ∀ pieces ∈ files.map results, ∀ piece ∈ pieces, piece ≠ "" := by
      refine List.forall_mem_map.2 fun file _ => List.forall_mem_map.2 fun found _ => ?_
      exact found.render_ne_empty _
    rw [hsaid, hall.output, List.flatMap_def, Text.joinWith_flatten hpieces]
  · rw [hfound, List.count_filter (p := fun line : FileLine => test line.text) hline.2]
    exact count_linesWithin hnamed hthere hline.1
  · rw [hfound, List.mem_filter] at hmem
    obtain ⟨file, hfile, hlisted⟩ := List.mem_flatMap.1 hmem.1
    obtain ⟨hpath, hnumber⟩ := mem_linesOfFile_iff.1 hlisted
    exact ⟨⟨file.2, hpath ▸ hread file hfile, hnumber⟩, hmem.2⟩

/-- Of two paths the second lies below the first: the line below both is shown for each of them. -/
theorem nested_paths_are_searched :
    let requests : List Request := [⟨1, "/", .writeFile "a/x" "One\ntwo" true⟩,
      ⟨2, "/", .writeFile "a/b/y" "no\none" true⟩]
    let session := start (FileTree.empty.afterRequests requests) Catalog.default "user" "host"
      ⟨2024, 1, 2, 3, 4, 5⟩
    let args := ["-n", "one", "a", "-r", "a/./b", "-i"]
    session.Greps args ["/a/x:1:One", "/a/b/y:2:one", "/a/b/y:2:one"] ∧
      session.Greps ["-n", "-i", "one", "/a/b/y"] ["/a/b/y:2:one"] := by
  intro requests session args
  have hempty : FileTree.empty.WellNamed := trivial
  have hnamed : session.tree.WellNamed := hempty.afterRequests requests
  have hthere : ∀ path ∈ ["a", "a/./b"], session.tree.holds (session.locate path) = true := by
    decide +kernel
  have hplain : ∀ flag ∈ GrepRequest.patternFlags, flag ∉ args := by decide
  have hoperands : GrepRequest.operands args = "one" :: ["a", "a/./b"] := by decide
  obtain ⟨halone, hall, -⟩ := grep_file_by_file hnamed (by decide) hplain hoperands
    (List.cons_ne_nil _ _) hthere
  have hfile := halone (["a", "b", "y"], "no\none") (by decide +kernel)
  refine ⟨?_, ?_⟩
  · convert hall using 1
    decide +kernel
  · convert hfile using 1 <;> decide +kernel

end Session

end Shell
end Shellbox
