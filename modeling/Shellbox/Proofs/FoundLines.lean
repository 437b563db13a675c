import Shellbox.Proofs.CommandScope
import Shellbox.Proofs.TreePaths
/-!
# The lines that a search finds

A search for a text goes through the lines of the files at its targets and shows those that pass a test.
What it goes through does not depend on the test (`searchedLines`), and a line that passes is shown with
its file and its number, or with its file alone. So the answer of `grep`, if there is nothing to complain
about, is a filtered list, shown line by line (`grep_eq_found`), and two searches at the same targets are
compared by their tests.

`grep` complains about a target before it looks at any line. Targets about which there is nothing to
complain are there, so that the search cannot fail (`holds_of_not_obstacle`).
-/

namespace Shellbox

namespace Text

variable {text line : List Char}

theorem not_endsLine_of_mem_linesFrom {word : List Char} (hword : ∀ c ∈ word, endsLine c = false)
    (h : line ∈ linesFrom word text) : ∀ c ∈ line, endsLine c = false := by
  have hnew : ∀ c ∈ ([] : List Char), endsLine c = false := fun _ hc => absurd hc List.not_mem_nil
  fun_induction linesFrom word text with
  | case1 word hempty => exact absurd h List.not_mem_nil
  | case2 word hempty =>
    obtain rfl := List.mem_singleton.1 h
    exact fun c hc => hword c (List.mem_reverse.1 hc)
  | case3 word rest ih =>
    rcases List.mem_cons.1 h with rfl | h
    · exact fun c hc => hword c (List.mem_reverse.1 hc)
    · exact ih hnew h
  | case4 word c rest hbreak hends ih =>
    rcases List.mem_cons.1 h with rfl | h
    · exact fun c hc => hword c (List.mem_reverse.1 hc)
    · exact ih hnew h
  | case5 word c rest hbreak hends ih =>
    exact ih (List.forall_mem_cons.2 ⟨Bool.eq_false_iff.2 hends, hword⟩) h

/-- A line holds no character that ends lines. -/
theorem not_endsLine_of_mem_lines (h : line ∈ lines text) : ∀ c ∈ line, endsLine c = false :=
  not_endsLine_of_mem_linesFrom (fun _ hc => absurd hc List.not_mem_nil) h

theorem linesFrom_of_not_endsLine {word : List Char} (h : ∀ c ∈ text, endsLine c = false)
    (hne : word.reverse ++ text ≠ []) : linesFrom word text = [word.reverse ++ text] := by
  fun_induction linesFrom word text with
  | case1 word hempty => simp [List.isEmpty_iff.1 hempty] at hne
  | case2 word hempty => rw [List.append_nil]
  | case3 word rest ih => exact absurd (h '\r' List.mem_cons_self) (by decide)
  | case4 word c rest hbreak hends ih =>
    rw [h c List.mem_cons_self] at hends
    cases hends
  | case5 word c rest hbreak hends ih =>
    have hword : word.reverse ++ c :: rest = (c :: word).reverse ++ rest := by simp
    rw [hword] at hne ⊢
    exact ih (fun d hd => h d (List.mem_cons_of_mem _ hd)) hne

/-- A text without a character that ends lines is a line. -/
theorem lines_of_not_endsLine (h : ∀ c ∈ text, endsLine c = false) (hne : text ≠ []) :
    lines text = [text] :=
  linesFrom_of_not_endsLine h hne

end Text

namespace Shell

/-- A line of a file: the path of the file, the number of the line in it, counted from one, and its
text. -/
structure FileLine where
  file : Path
  number : Nat
  text : List Char
  deriving DecidableEq, Repr

/-- How a line that was found is shown. -/
def FileLine.render (numbered : Bool) (line : FileLine) : String :=
  line.file.render ++ ":" ++ (if numbered then toString line.number ++ ":" else "") ++
    String.ofList line.text

/-- The lines of a file in order. -/
def linesOfFile (file : Path × String) : List FileLine :=
  ((Text.lines file.2.toList).zipIdx 1).map fun (text, number) => ⟨file.1, number, text⟩

/-- The lines that a search at some targets goes through, in order. -/
def searchedLines (tree : FileTree) (cwd : Path) (deep : Bool) (targets : List String) :
    List FileLine :=
  targets.flatMap fun target =>
    ((tree.files (Path.readFrom cwd target) deep).toOption.getD []).flatMap linesOfFile

variable {tree : FileTree} {cwd : Path} {deep : Bool} {given : List String}

/-- The lines of a file that are shown are those that pass the test. -/
theorem matchingLines_eq (test : List Char → Bool) (numbered : Bool) (file : Path × String) :
    matchingLines test numbered file =
      ((linesOfFile file).filter (test ·.text)).map (FileLine.render numbered) := by
  rw [matchingLines, linesOfFile, List.filter_map, List.map_map]
  rfl

/-- A target about which there is nothing to complain is there, and only where whole subtrees are
searched it may be a directory. -/
theorem holds_of_not_obstacle (h : grepObstacle? tree cwd deep given = none) :
    ∀ target ∈ given, tree.holds (Path.readFrom cwd target) = true := by
  induction given with
  | nil => exact fun _ hmem => absurd hmem List.not_mem_nil
  | cons target rest ih =>
    rw [grepObstacle?] at h
    split_ifs at h with hdir hholds
    refine List.forall_mem_cons.2 ⟨?_, ih h⟩
    simpa using hholds

theorem exists_files_of_holds {path : Path} (h : tree.holds path = true) (deep : Bool) :
    ∃ files, tree.files path deep = .ok files := by
  obtain ⟨node, hat⟩ := FileTree.holds_iff.1 h
  rw [FileTree.files, FileTree.resolve_eq_ok_iff.2 hat]
  cases node with
  | file stamps text => exact ⟨_, rfl⟩
  | dir stamps inside => exact ⟨_, rfl⟩

/-- A search at targets that are there shows the lines that pass the test. -/
theorem grepEach_eq (h : ∀ target ∈ given, tree.holds (Path.readFrom cwd target) = true)
    (test : List Char → Bool) (deep numbered : Bool) :
    grepEach tree cwd test deep numbered given =
      .ok (((searchedLines tree cwd deep given).filter (test ·.text)).map
        (FileLine.render numbered)) := by
  induction given with
  | nil => rfl
  | cons target rest ih =>
    obtain ⟨htarget, hrest⟩ := List.forall_mem_cons.1 h
    obtain ⟨files, hfiles⟩ := exists_files_of_holds htarget deep
    have hshown : files.flatMap (matchingLines test numbered) =
        ((files.flatMap linesOfFile).filter (test ·.text)).map (FileLine.render numbered) := by
      rw [List.filter_flatMap, List.map_flatMap]
      exact List.flatMap_congr fun file _ => matchingLines_eq test numbered file
    have hsearched : searchedLines tree cwd deep (target :: rest) =
        files.flatMap linesOfFile ++ searchedLines tree cwd deep rest := by
      rw [searchedLines, List.flatMap_cons, hfiles]
      rfl
    rw [grepEach, hfiles, ih hrest, hsearched, List.filter_append, List.map_append, ← hshown]
    rfl

namespace GrepRequest

/-- What the arguments of `grep` ask for. -/
def ofArgs (args : List String) : GrepRequest := args.foldl take {}

/-- Where a request searches: without any path, in the working directory. -/
def targets (request : GrepRequest) : List String :=
  if request.paths.isEmpty then ["."] else request.paths

/-- The request asks for a text, and there is nothing to complain about. -/
structure Searches (request : GrepRequest) (tree : FileTree) (cwd : Path) (text : String) : Prop where
  /-- The operand to look for is the text. -/
  text : request.pattern = some text
  /-- It is not to be read as a pattern. -/
  plain : request.usesPattern = false
  /-- Paths are given, or whole subtrees are searched. -/
  located : request.paths = [] → request.deep = true
  /-- No target stands in the way. -/
  clear : grepObstacle? tree cwd request.deep request.targets = none

/-- The lines that a request for a text finds. -/
def found (request : GrepRequest) (tree : FileTree) (cwd : Path) : List FileLine :=
  (searchedLines tree cwd request.deep request.targets).filter fun line =>
    textTest request.ignoreCase (request.pattern.getD "").toList line.text

end GrepRequest

/-- **`grep` shows the lines that it finds**, if there is nothing to complain about. -/
theorem grep_eq_found {args : List String} {text : String}
    (h : (GrepRequest.ofArgs args).Searches tree cwd text) :
    grep tree cwd args =
      .ok (Text.joinWith "\n" (((GrepRequest.ofArgs args).found tree cwd).map
        (FileLine.render (GrepRequest.ofArgs args).numbered))) := by
  generalize hrequest : GrepRequest.ofArgs args = request at h ⊢
  have hlocated : (request.paths.isEmpty && !request.deep) = false := by
    cases hpaths : request.paths with
    | nil => rw [h.located hpaths]; rfl
    | cons first rest => rfl
  have heach := grepEach_eq (holds_of_not_obstacle h.clear)
    (textTest request.ignoreCase text.toList) request.deep request.numbered
  unfold grep
  rw [← GrepRequest.ofArgs, hrequest]
  simp only [h.text, hlocated, h.plain, Bool.false_eq_true, if_false]
  rw [← GrepRequest.targets, h.clear, heach, GrepRequest.found, h.text]
  rfl

end Shell
end Shellbox
