import Mathlib.Data.List.Infix
import Shellbox.Proofs.Clocks
import Shellbox.Proofs.SessionNames
/-!
# Several directories at once and one by one

`mkdir` sees to its operands one after the other. It has words for an operand that is there already or
lacks its parent, and goes on behind it. It has none for an operand that is refused
(`FileTree.Refuses`): this one ends the run, with its failure as the whole output
(`Shell.exists_mkdirOne_error_iff`). Making directories makes and loses no files, so which operands are
refused does not change during a run (`Shell.refuses_after_mkdirOne`).

Up to the first operand that is refused the run goes along with single calls, by whatever clocks
(`Shell.mkdirEach_append_of_sound`). There it stops, while the single calls go on. The two are the same
all the same if the single calls have nothing to do and to say otherwise
(`Shell.eq_one_by_one_iff_of_refused`), that is, if all other operands are directories that are there
and will do. `Shell.mkdir_eq_one_by_one_iff` says so of the command in a session.
-/

namespace Shellbox

namespace Text

/-- If pieces that are joined by line feeds make up one of them, there is no other one. -/
theorem eq_singleton_of_joinWith {piece : String} {pieces : List String} (hmem : piece ∈ pieces)
    (h : joinWith "\n" pieces = piece) : pieces = [piece] := by
  cases pieces with
  | nil => cases hmem
  | cons first others =>
    cases others with
    | nil => rw [List.mem_singleton.1 hmem]
    | cons second more =>
      have hlength := congrArg (fun text => text.toList.length) h
      have hsep : "\n".toList.length = 1 := rfl
      simp only [toList_joinWith, List.map_cons, joined, List.length_append, hsep] at hlength
      rcases List.mem_cons.1 hmem with rfl | hmem
      · omega
      · have hmapped : piece.toList ∈ second.toList :: more.map String.toList := by
          rw [← List.map_cons]
          exact List.mem_map_of_mem hmem
        have hshorter := (@infix_joined Char "\n".toList _ _ hmapped).length_le
        omega

/-- Something that is said is all that is said exactly if there is nothing else but empty texts. -/
theorem eq_joinWith_filter_iff {said : String} (hsaid : said ≠ "") (before after : List String) :
    said = joinWith "\n" ((before ++ said :: after).filter (· ≠ "")) ↔
      (∀ reply ∈ before, reply = "") ∧ ∀ reply ∈ after, reply = "" := by
  have hnone : ∀ replies : List String,
      replies.filter (· ≠ "") = [] ↔ ∀ reply ∈ replies, reply = "" := fun replies => by
    rw [List.filter_eq_nil_iff]
    simp
  have hkept : (before ++ said :: after).filter (· ≠ "") =
      before.filter (· ≠ "") ++ said :: after.filter (· ≠ "") := by
    rw [List.filter_append, List.filter_cons_of_pos (by simpa using hsaid)]
  rw [hkept, ← hnone, ← hnone]
  constructor
  · intro h
    have hsingle := eq_singleton_of_joinWith (by simp) h.symm
    rcases List.append_eq_singleton_iff.1 hsingle with ⟨hbefore, hafter⟩ | ⟨-, hafter⟩
    · exact ⟨hbefore, (List.cons.inj hafter).2⟩
    · cases hafter
  · rintro ⟨hbefore, hafter⟩
    rw [hbefore, hafter]
    simp [joinWith, joined]

end Text

namespace FileTree

/-- A directory at the path is refused in a way that `mkdir` has no words for: the path is that of the
root, and it does not do that the root is there, or there is a file above it. -/
def Refuses (tree : FileTree) (parents : Bool) (path : Path) : Prop :=
  path = [] ∧ parents = false ∨
    ∃ front text, front <+: path.dropLast ∧ tree.content? front = some (.file text)

instance (tree : FileTree) (parents : Bool) (path : Path) : Decidable (tree.Refuses parents path) :=
  decidable_of_iff
    (path = [] ∧ parents = false ∨ ∃ front ∈ path.dropLast.inits, tree.hasFile front = true) (by
      simp only [Refuses, hasFile_iff, List.mem_inits, exists_and_left])

end FileTree

namespace Shell

variable {now later : Nat} {cwd : Path} {parents : Bool} {operand : String} {lines : List String}
  {tree first second : FileTree} {runs : List (Nat × String)}

/-- What `mkdir` does for one of its operands, and the line that it adds to the output, if any. -/
def mkdirOne (now : Nat) (cwd : Path) (parents : Bool) (operand : String) : Edit (Option String) := do
  if parents && (← get).hasDir (Path.readFrom cwd operand) then return none
  else
    let line ← orSay (mkdirWords operand) do
      let _ ← Edit.mkdir now (Path.readFrom cwd operand) parents false
      return "Directory created: " ++ operand
    return some line

theorem mkdirEach_cons (rest : List String) :
    mkdirEach now cwd parents lines (operand :: rest) =
      mkdirOne now cwd parents operand >>= fun line =>
        mkdirEach now cwd parents (line.toList ++ lines) rest := by
  rw [mkdirEach, mkdirOne, bind_assoc]
  refine bind_congr fun tree => ?_
  split
  · rw [pure_bind]
    rfl
  · rw [bind_assoc]
    simp only [pure_bind]
    rfl

theorem skips_iff :
    (parents && tree.hasDir (Path.readFrom cwd operand)) = true ↔
      parents = true ∧ tree.content? (Path.readFrom cwd operand) = some .dir := by
  rw [Bool.and_eq_true, FileTree.hasDir_iff]

theorem outcome_mkdirOne :
    (mkdirOne now cwd parents operand).outcome tree =
      if parents = true ∧ tree.content? (Path.readFrom cwd operand) = some .dir then .ok none
      else
        match (Edit.mkdir now (Path.readFrom cwd operand) parents false).outcome tree with
        | .ok _ => .ok (some ("Directory created: " ++ operand))
        | .error fault =>
          match mkdirWords operand fault with
          | some line => .ok (some line)
          | none => .error fault := by
  unfold mkdirOne
  rw [Edit.outcome_bind, Edit.outcome_get, Edit.after_get]
  dsimp only
  by_cases hdir : parents = true ∧ tree.content? (Path.readFrom cwd operand) = some .dir
  · rw [if_pos hdir, if_pos (skips_iff.2 hdir)]
    rfl
  · rw [if_neg hdir, if_neg (mt skips_iff.1 hdir)]
    simp only [bind_pure_comp, Edit.outcome_map, outcome_orSay]
    cases (Edit.mkdir now (Path.readFrom cwd operand) parents false).outcome tree with
    | ok made => rfl
    | error fault =>
      simp only [Except.map]
      cases mkdirWords operand fault <;> rfl

theorem after_mkdirOne :
    (mkdirOne now cwd parents operand).after tree =
      if parents = true ∧ tree.content? (Path.readFrom cwd operand) = some .dir then tree
      else (Edit.mkdir now (Path.readFrom cwd operand) parents false).after tree := by
  unfold mkdirOne
  rw [Edit.after_bind, Edit.outcome_get, Edit.after_get]
  dsimp only
  by_cases hdir : parents = true ∧ tree.content? (Path.readFrom cwd operand) = some .dir
  · rw [if_pos hdir, if_pos (skips_iff.2 hdir)]
    rfl
  · rw [if_neg hdir, if_neg (mt skips_iff.1 hdir)]
    simp only [bind_pure_comp, Edit.after_map, after_orSay]

section Proper

variable (hpath : ∀ name ∈ Path.readFrom cwd operand, Edit.isName name)
include hpath

/-- An operand ends in the same way in trees that differ in nothing but time, and leaves such trees
behind. -/
theorem mkdirOne_congr (h : first.timeless = second.timeless) (now later : Nat) :
    (mkdirOne now cwd parents operand).outcome first =
        (mkdirOne later cwd parents operand).outcome second ∧
      ((mkdirOne now cwd parents operand).after first).timeless =
        ((mkdirOne later cwd parents operand).after second).timeless := by
  have hdir := FileTree.content?_congr h (Path.readFrom cwd operand)
  constructor
  · rw [outcome_mkdirOne, outcome_mkdirOne, hdir, Edit.outcome_mkdir_congr hpath h now later]
  · rw [after_mkdirOne, after_mkdirOne, hdir]
    split_ifs
    · exact h
    · exact Edit.timeless_mkdir_congr hpath h now later

/-- An operand that `mkdir` has no words for leaves no trace. -/
theorem after_mkdirOne_of_error {fault : Fault}
    (h : (mkdirOne now cwd parents operand).outcome tree = .error fault) :
    (mkdirOne now cwd parents operand).after tree = tree := by
  rw [outcome_mkdirOne] at h
  rw [after_mkdirOne]
  split_ifs at h ⊢ with hdir
  cases hmkdir : (Edit.mkdir now (Path.readFrom cwd operand) parents false).outcome tree with
  | ok made => rw [hmkdir] at h; cases h
  | error cause => exact Edit.Atomic.mkdir hpath tree cause hmkdir

/-- `mkdir` has no words for exactly those operands that are refused. -/
theorem exists_mkdirOne_error_iff :
    (∃ fault, (mkdirOne now cwd parents operand).outcome tree = .error fault) ↔
      tree.Refuses parents (Path.readFrom cwd operand) := by
  rw [outcome_mkdirOne]
  constructor
  · rintro ⟨fault, h⟩
    split_ifs at h with hskip
    cases hmkdir : (Edit.mkdir now (Path.readFrom cwd operand) parents false).outcome tree with
    | ok made => rw [hmkdir] at h; cases h
    | error cause =>
      rw [hmkdir] at h
      rcases (Edit.outcome_mkdir_eq_error_iff hpath).1 hmkdir with
        ⟨hroot, -⟩ | ⟨-, ⟨front, hfront, -, ⟨⟨text, hfile⟩, -⟩ | ⟨-, -, rfl⟩⟩ | ⟨-, rfl⟩⟩
      · refine Or.inl ⟨hroot, Bool.eq_false_iff.2 fun hparents => hskip ⟨hparents, ?_⟩⟩
        rw [hroot]
        rfl
      · exact Or.inr ⟨front, text, hfront, hfile⟩
      · cases h
      · cases h
  · rintro (⟨hroot, rfl⟩ | ⟨front, text, hfront, hfile⟩)
    · rw [hroot]
      exact ⟨.rootAsTarget, rfl⟩
    · have hbelow : front <+: Path.readFrom cwd operand := hfront.trans (List.dropLast_prefix _)
      have hdir : tree.content? (Path.readFrom cwd operand) ≠ some .dir := fun hdir =>
        FileTree.content?_ne_file_of_prefix hdir hbelow text hfile
      have hobstacle : tree.Obstacle parents (Path.readFrom cwd operand).dropLast
          (.notADirectory front) := by
        refine ⟨front, hfront, fun above habove hne => ?_, Or.inl ⟨⟨text, hfile⟩, rfl⟩⟩
        obtain ⟨rest, rfl⟩ := habove
        have hrest : rest ≠ [] := by
          rintro rfl
          exact hne (List.append_nil above).symm
        exact FileTree.content?_of_append hrest (by rw [hfile]; exact Option.some_ne_none _)
      have hroot : Path.readFrom cwd operand ≠ [] := fun hroot => by
        rw [hroot] at hdir
        exact hdir rfl
      have hmkdir : (Edit.mkdir now (Path.readFrom cwd operand) parents false).outcome tree =
          .error (.notADirectory front) :=
        (Edit.outcome_mkdir_eq_error_iff hpath).2 (Or.inr ⟨hroot, Or.inl hobstacle⟩)
      refine ⟨.notADirectory front, ?_⟩
      rw [if_neg fun hskip => hdir hskip.2, hmkdir]
      rfl

/-- Making a directory makes and loses no file. -/
theorem content?_mkdirOne_eq_file_iff {other : Path} {text : String} :
    ((mkdirOne now cwd parents operand).after tree).content? other = some (.file text) ↔
      tree.content? other = some (.file text) := by
  rw [after_mkdirOne]
  split_ifs with hskip
  · rfl
  · cases hmkdir : (Edit.mkdir now (Path.readFrom cwd operand) parents false).outcome tree with
    | error cause => rw [Edit.Atomic.mkdir hpath tree cause hmkdir]
    | ok made =>
      rcases List.eq_nil_or_concat' (Path.readFrom cwd operand) with hroot | ⟨parent, name, hplace⟩
      · rw [hroot] at hmkdir
        cases hmkdir
      · rw [hplace] at hmkdir hpath ⊢
        have hname : Edit.isName name := hpath name List.mem_concat_self
        obtain rfl := Edit.eq_of_outcome_mkdir hname hmkdir
        rw [Edit.content?_after_mkdir hname hmkdir]
        by_cases hother : other = parent ++ [name]
        · rw [if_pos hother, hother, Edit.content?_of_mkdir hname hmkdir]
          simp
        · rw [if_neg hother]
          cases tree.content? other with
          | some held => rfl
          | none => split_ifs <;> simp

/-- So the same operands are refused before and after. -/
theorem refuses_after_mkdirOne (parents' : Bool) (path : Path) :
    ((mkdirOne now cwd parents operand).after tree).Refuses parents' path ↔
      tree.Refuses parents' path := by
  unfold FileTree.Refuses
  simp only [content?_mkdirOne_eq_file_iff hpath]

end Proper

/-! ### Replies -/

/-- What `mkdir` puts out when it is called for one operand alone. -/
def mkdirReply (now : Nat) (cwd : Path) (parents : Bool) (operand : String) (tree : FileTree) :
    String :=
  putOut Builtin.mkdir.name (((mkdirOne now cwd parents operand).outcome tree).map (·.getD ""))

theorem ne_empty_of_mkdirWords {fault : Fault} {line : String}
    (h : mkdirWords operand fault = some line) : line ≠ "" := by
  cases fault <;> simp [mkdirWords] at h <;> simp [← h]

/-- Nothing is put out exactly for a directory that is there and will do. -/
theorem mkdirReply_eq_empty_iff :
    mkdirReply now cwd parents operand tree = "" ↔
      parents = true ∧ tree.content? (Path.readFrom cwd operand) = some .dir := by
  rw [mkdirReply, outcome_mkdirOne]
  split_ifs with hskip
  · exact ⟨fun _ => hskip, fun _ => rfl⟩
  · refine ⟨fun h => ?_, fun h => absurd h hskip⟩
    cases hmkdir : (Edit.mkdir now (Path.readFrom cwd operand) parents false).outcome tree with
    | ok made => simp [hmkdir, Except.map, putOut] at h
    | error fault =>
      cases hwords : mkdirWords operand fault with
      | some line =>
        simp only [hmkdir, hwords, Except.map, putOut, Option.getD_some] at h
        exact absurd h (ne_empty_of_mkdirWords hwords)
      | none => simp [hmkdir, hwords, Except.map, putOut, Failure.output, Builtin.name] at h

/-- The output of a call that goes well is the line of its operand, if there is one. -/
theorem filter_mkdirReply {line : Option String}
    (h : (mkdirOne now cwd parents operand).outcome tree = .ok line) :
    [mkdirReply now cwd parents operand tree].filter (· ≠ "") = line.toList := by
  have hreply : mkdirReply now cwd parents operand tree = line.getD "" := by rw [mkdirReply, h]; rfl
  have hempty := @mkdirReply_eq_empty_iff now cwd parents operand tree
  rw [hreply] at hempty ⊢
  cases line with
  | none => rfl
  | some text =>
    have htext : text ≠ "" := fun heq => by
      rw [outcome_mkdirOne, if_pos (hempty.1 heq)] at h
      cases h
    exact List.filter_cons_of_pos (decide_eq_true htext)

/-! ### One call after the other -/

/-- What is put out when `mkdir` is called for one operand after the other, each at its own time, and
the tree that is left. -/
def mkdirOneByOne (cwd : Path) (parents : Bool) :
    List (Nat × String) → FileTree → List String × FileTree
  | [], tree => ([], tree)
  | (now, operand) :: rest, tree =>
    let ended := mkdirOneByOne cwd parents rest ((mkdirOne now cwd parents operand).after tree)
    (mkdirReply now cwd parents operand tree :: ended.1, ended.2)

theorem mkdirOneByOne_append (before after : List (Nat × String)) (tree : FileTree) :
    mkdirOneByOne cwd parents (before ++ after) tree =
      let ended := mkdirOneByOne cwd parents before tree
      let last := mkdirOneByOne cwd parents after ended.2
      (ended.1 ++ last.1, last.2) := by
  induction before generalizing tree with
  | nil => rfl
  | cons run before ih =>
    obtain ⟨now, operand⟩ := run
    rw [List.cons_append, mkdirOneByOne, ih]
    rfl

/-- The calls say nothing at all exactly if every operand is a directory that is there and will do, and
then they do nothing either. -/
theorem mkdirOneByOne_silent_iff :
    (∀ reply ∈ (mkdirOneByOne cwd parents runs tree).1, reply = "") ↔
      ∀ run ∈ runs, parents = true ∧ tree.content? (Path.readFrom cwd run.2) = some .dir := by
  induction runs generalizing tree with
  | nil => simp [mkdirOneByOne]
  | cons run runs ih =>
    obtain ⟨now, operand⟩ := run
    rw [mkdirOneByOne, List.forall_mem_cons, List.forall_mem_cons, mkdirReply_eq_empty_iff, ih,
      after_mkdirOne]
    refine and_congr_right fun hdir => ?_
    rw [if_pos hdir]

theorem snd_mkdirOneByOne_of_dirs
    (h : ∀ run ∈ runs, parents = true ∧ tree.content? (Path.readFrom cwd run.2) = some .dir) :
    (mkdirOneByOne cwd parents runs tree).2 = tree := by
  induction runs with
  | nil => rfl
  | cons run runs ih =>
    obtain ⟨now, operand⟩ := run
    obtain ⟨hdir, hrest⟩ := List.forall_mem_cons.1 h
    rw [mkdirOneByOne, after_mkdirOne, if_pos hdir]
    exact ih hrest

/-! ### All at once -/

/-- A directory that is there and will do is not refused. -/
theorem not_refuses_of_dir {path : Path}
    (h : parents = true ∧ tree.content? path = some .dir) : ¬tree.Refuses parents path := by
  rintro (⟨-, hparents⟩ | ⟨front, text, hfront, hfile⟩)
  · rw [h.1] at hparents
    cases hparents
  · have hbelow : front <+: path := hfront.trans (List.dropLast_prefix path)
    exact FileTree.content?_ne_file_of_prefix h.2 hbelow text hfile

section AllAtOnce

variable (hcwd : ∀ name ∈ cwd, Edit.isName name)
include hcwd

/-- As long as no operand is refused, `mkdir` for all operands goes along with the single calls: the
lines that it has collected are what these put out, and the trees differ in nothing but time. -/
theorem mkdirEach_append_of_sound {before : List (Nat × String)}
    (hsound : ∀ run ∈ before, ¬first.Refuses parents (Path.readFrom cwd run.2))
    (h : first.timeless = second.timeless) (now : Nat) (lines : List String) :
    ∃ middle : FileTree,
      middle.timeless = (mkdirOneByOne cwd parents before second).2.timeless ∧
      (∀ path, middle.Refuses parents path ↔ first.Refuses parents path) ∧
      ∀ rest, (mkdirEach now cwd parents lines (before.map Prod.snd ++ rest)).run.run first =
        (mkdirEach now cwd parents
          (((mkdirOneByOne cwd parents before second).1.filter (· ≠ "")).reverse ++ lines)
          rest).run.run middle := by
  induction before generalizing first second lines with
  | nil => exact ⟨first, h, fun _ => Iff.rfl, fun _ => rfl⟩
  | cons run before ih =>
    obtain ⟨later, operand⟩ := run
    obtain ⟨hoperand, hbefore⟩ := List.forall_mem_cons.1 hsound
    have hpath := Path.isName_of_mem_readFrom hcwd operand
    obtain ⟨houtcome, hafter⟩ := @mkdirOne_congr cwd parents operand first second hpath h now later
    have hrefuses := @refuses_after_mkdirOne now cwd parents operand first hpath
    have hstill : ∀ run ∈ before, ¬((mkdirOne now cwd parents operand).after first).Refuses parents
        (Path.readFrom cwd run.2) := fun run hrun => mt (hrefuses parents _).1 (hbefore run hrun)
    cases hline : (mkdirOne now cwd parents operand).outcome first with
    | error fault => exact absurd ((exists_mkdirOne_error_iff hpath).1 ⟨fault, hline⟩) hoperand
    | ok line =>
      obtain ⟨middle, hmiddle, hsame, hrun⟩ := ih hstill hafter (line.toList ++ lines)
      refine ⟨middle, hmiddle, fun path => (hsame path).trans (hrefuses parents path), fun rest => ?_⟩
      have hkept := filter_mkdirReply (houtcome.symm.trans hline)
      have hreverse : line.toList.reverse = line.toList := by cases line <;> rfl
      rw [List.map_cons, List.cons_append, mkdirEach_cons, Edit.run_bind_of_ok first hline, hrun,
        mkdirOneByOne, ← List.singleton_append, List.filter_append, hkept, List.reverse_append,
        hreverse, List.append_assoc]

/-- Once an operand is refused, all at once is the same as one by one exactly if there was nothing else
to be done. -/
theorem eq_one_by_one_iff_of_refused {before after : List (Nat × String)}
    (hsound : ∀ run ∈ before, ¬tree.Refuses parents (Path.readFrom cwd run.2))
    (hrefused : tree.Refuses parents (Path.readFrom cwd operand)) (now later : Nat) :
    let runs := before ++ (later, operand) :: after
    let edit := mkdirEach now cwd parents [] (runs.map Prod.snd)
    let alone := mkdirOneByOne cwd parents runs tree
    (edit.after tree).timeless = alone.2.timeless ∧
        putOut Builtin.mkdir.name (edit.outcome tree) =
          Text.joinWith "\n" (alone.1.filter (· ≠ "")) ↔
      ∀ run ∈ before ++ after,
        parents = true ∧ tree.content? (Path.readFrom cwd run.2) = some .dir := by
  intro runs edit alone
  have hpath := Path.isName_of_mem_readFrom hcwd operand
  obtain ⟨middle, hmiddle, hsame, hrun⟩ := mkdirEach_append_of_sound hcwd hsound rfl now []
  obtain ⟨fault, hfault⟩ := (@exists_mkdirOne_error_iff now cwd parents operand middle hpath).2
    ((hsame _).2 hrefused)
  set between := (mkdirOneByOne cwd parents before tree).2 with hbetween
  obtain ⟨houtcome, -⟩ := @mkdirOne_congr cwd parents operand _ _ hpath hmiddle now later
  have hlater := houtcome.symm.trans hfault
  -- all at once, the run ends at the operand that is refused
  have hstop : edit.run.run tree = (.error fault, middle) := by
    have hoperands : runs.map Prod.snd = before.map Prod.snd ++ operand :: after.map Prod.snd := by
      rw [List.map_append, List.map_cons]
    simp only [edit]
    rw [hoperands, hrun, mkdirEach_cons, Edit.run_bind_of_error middle hfault,
      after_mkdirOne_of_error hpath hfault]
  have hended : edit.outcome tree = .error fault := congrArg Prod.fst hstop
  have hleft : edit.after tree = middle := congrArg Prod.snd hstop
  -- one by one, the calls go on behind it
  have hreply : mkdirReply later cwd parents operand between =
      putOut Builtin.mkdir.name (.error fault) := by
    rw [mkdirReply, hlater]
    rfl
  have hspoken : putOut Builtin.mkdir.name (.error fault) ≠ "" := by
    simp [putOut, Failure.output, Builtin.name]
  have halone : alone =
      ((mkdirOneByOne cwd parents before tree).1 ++ putOut Builtin.mkdir.name (.error fault) ::
          (mkdirOneByOne cwd parents after between).1,
        (mkdirOneByOne cwd parents after between).2) := by
    simp only [alone, runs]
    rw [mkdirOneByOne_append]
    dsimp only
    rw [← hbetween, mkdirOneByOne, after_mkdirOne_of_error hpath hlater, hreply]
  rw [hended, hleft, halone]
  dsimp only
  rw [Text.eq_joinWith_filter_iff hspoken, mkdirOneByOne_silent_iff, List.forall_mem_append]
  have hbetweenDirs : (∀ run ∈ before, parents = true ∧
      tree.content? (Path.readFrom cwd run.2) = some .dir) → between = tree :=
    snd_mkdirOneByOne_of_dirs
  constructor
  · rintro ⟨-, hbefore, hafter⟩
    rw [hbetweenDirs hbefore, mkdirOneByOne_silent_iff] at hafter
    exact ⟨hbefore, hafter⟩
  · rintro ⟨hbefore, hafter⟩
    rw [hmiddle, hbetweenDirs hbefore, snd_mkdirOneByOne_of_dirs hafter, mkdirOneByOne_silent_iff]
    exact ⟨rfl, hbefore, hafter⟩

/-- When all at once is the same as one by one. -/
theorem mkdirEach_eq_one_by_one_iff (now : Nat) (runs : List (Nat × String)) (tree : FileTree) :
    let edit := mkdirEach now cwd parents [] (runs.map Prod.snd)
    let alone := mkdirOneByOne cwd parents runs tree
    (edit.after tree).timeless = alone.2.timeless ∧
        putOut Builtin.mkdir.name (edit.outcome tree) =
          Text.joinWith "\n" (alone.1.filter (· ≠ "")) ↔
      (∀ run ∈ runs, ¬tree.Refuses parents (Path.readFrom cwd run.2)) ∨
        ∃ before run after, runs = before ++ run :: after ∧
          tree.Refuses parents (Path.readFrom cwd run.2) ∧
          ∀ other ∈ before ++ after,
            parents = true ∧ tree.content? (Path.readFrom cwd other.2) = some .dir := by
  intro edit alone
  rcases forall_or_exists_first (fun run => ¬tree.Refuses parents (Path.readFrom cwd run.2)) runs with
    hsound | ⟨before, run, after, hruns, hrefused, hsound⟩
  · -- all at once, the run goes along with the single calls to the end
    obtain ⟨middle, hmiddle, -, hrun⟩ := mkdirEach_append_of_sound hcwd hsound rfl now []
    have hlast := hrun []
    rw [List.append_nil, List.append_nil] at hlast
    have houtcome : edit.outcome tree = .ok (Text.joinWith "\n" (alone.1.filter (· ≠ ""))) := by
      refine (congrArg Prod.fst hlast).trans (congrArg (Except.ok ∘ Text.joinWith "\n") ?_)
      exact List.reverse_reverse _
    have hafter : edit.after tree = middle := congrArg Prod.snd hlast
    refine iff_of_true ⟨?_, ?_⟩ (Or.inl hsound)
    · rw [hafter, hmiddle]
    · rw [houtcome]
      rfl
  · have hrefused : tree.Refuses parents (Path.readFrom cwd run.2) := not_not.1 hrefused
    constructor
    · intro heq
      refine Or.inr ⟨before, run, after, hruns, hrefused, ?_⟩
      simp only [edit, alone, hruns] at heq
      exact (eq_one_by_one_iff_of_refused hcwd hsound hrefused now run.1).1 heq
    · rintro (hnone | ⟨before, run, after, hruns, hrefused, hothers⟩)
      · exact absurd hrefused (hnone run (by simp [hruns]))
      · have hsound : ∀ other ∈ before, ¬tree.Refuses parents (Path.readFrom cwd other.2) :=
          fun other hother => not_refuses_of_dir (hothers other (List.mem_append_left after hother))
        simp only [edit, alone, hruns]
        exact (eq_one_by_one_iff_of_refused hcwd hsound hrefused now run.1).2 hothers

end AllAtOnce

/-! ### Sessions -/

/-- Whether an argument of `mkdir` is a flag. -/
def isMkdirFlag (arg : String) : Bool := arg = "-p" || arg = "--parents"

/-- The arguments of `mkdir` that stand for directories. -/
def mkdirOperands (args : List String) : List String := args.filter fun arg => !isMkdirFlag arg

/-- The arguments of `mkdir` for one of its operands alone, with a flag if there was one. -/
def mkdirAlone (args : List String) (operand : String) : List String :=
  (if args.any isMkdirFlag then ["-p"] else []) ++ [operand]

/-- What is put out when a command is called with one list of arguments after the other, each at its own
time, and the session after the last call. -/
def Command.calls (name : String) (command : Command) :
    List (Nat × List String) → Session → List String × Session
  | [], session => ([], session)
  | (now, args) :: rest, session =>
    let called := command.call now name args session
    let ended := command.calls name rest called.2
    (called.1 :: ended.1, ended.2)

variable {session : Session} {args : List String}

theorem mkdir_eq_pure (h : mkdirOperands args = []) :
    mkdir now cwd args = pure "mkdir: missing operand" :=
  if_pos (List.isEmpty_iff.2 h)

theorem mkdir_eq_mkdirEach (h : mkdirOperands args ≠ []) :
    mkdir now cwd args = mkdirEach now cwd (args.any isMkdirFlag) [] (mkdirOperands args) :=
  if_neg (mt List.isEmpty_iff.1 h)

theorem call_mkdir (now : Nat) (args : List String) (session : Session) :
    Builtin.mkdir.command.call now Builtin.mkdir.name args session =
      (putOut Builtin.mkdir.name ((mkdir now session.cwd args).outcome session.tree),
        { session with tree := (mkdir now session.cwd args).after session.tree }) :=
  Command.call_of_edit rfl now _ args session

/-- The call for one operand alone. -/
theorem call_mkdirAlone (hoperand : isMkdirFlag operand = false) (now : Nat) (session : Session) :
    Builtin.mkdir.command.call now Builtin.mkdir.name (mkdirAlone args operand) session =
      (mkdirReply now session.cwd (args.any isMkdirFlag) operand session.tree,
        { session with
          tree := (mkdirOne now session.cwd (args.any isMkdirFlag) operand).after session.tree }) := by
  have hflag : isMkdirFlag "-p" = true := rfl
  have hoperands : mkdirOperands (mkdirAlone args operand) = [operand] := by
    rw [mkdirOperands, mkdirAlone]
    cases args.any isMkdirFlag <;> simp [hflag, hoperand]
  have hparents : (mkdirAlone args operand).any isMkdirFlag = args.any isMkdirFlag := by
    rw [mkdirAlone]
    cases args.any isMkdirFlag <;> simp [hflag, hoperand]
  have hedit : mkdir now session.cwd (mkdirAlone args operand) =
      (·.getD "") <$> mkdirOne now session.cwd (args.any isMkdirFlag) operand := by
    rw [mkdir_eq_mkdirEach (by rw [hoperands]; exact List.cons_ne_nil operand []), hoperands, hparents,
      mkdirEach_cons, ← bind_pure_comp]
    refine bind_congr fun line => ?_
    cases line <;> simp [mkdirEach, Text.joinWith, Text.joined]
  rw [call_mkdir, hedit, Edit.outcome_map, Edit.after_map]
  rfl

theorem calls_mkdirAlone (hruns : ∀ run ∈ runs, isMkdirFlag run.2 = false) (session : Session) :
    Builtin.mkdir.command.calls Builtin.mkdir.name
        (runs.map fun run => (run.1, mkdirAlone args run.2)) session =
      let ended := mkdirOneByOne session.cwd (args.any isMkdirFlag) runs session.tree
      (ended.1, { session with tree := ended.2 }) := by
  induction runs generalizing session with
  | nil => rfl
  | cons run runs ih =>
    obtain ⟨now, operand⟩ := run
    obtain ⟨hrun, hrest⟩ := List.forall_mem_cons.1 hruns
    rw [List.map_cons, Command.calls, call_mkdirAlone hrun]
    dsimp only
    rw [ih hrest]
    rfl

/-- **All at once and one by one.** Calling `mkdir` with all its operands leaves the same tree, but for
time, and puts out the same lines as calling it for one operand after the other, exactly if there are
operands, and none of them is refused, or one is and all the others are directories that are there and
will do. An operand is refused that is the root, unless the root will do, or that has a file above it:
it ends the run, the operands behind it are left out, and its failure is all that is put out. -/
theorem mkdir_eq_one_by_one_iff (h : session.Named) (now : Nat) (args : List String)
    (runs : List (Nat × String)) (hruns : runs.map Prod.snd = mkdirOperands args) :
    let joined := Builtin.mkdir.command.call now Builtin.mkdir.name args session
    let alone := Builtin.mkdir.command.calls Builtin.mkdir.name
      (runs.map fun run => (run.1, mkdirAlone args run.2)) session
    let place := Path.readFrom session.cwd
    let parents := args.any isMkdirFlag
    joined.2.tree.timeless = alone.2.tree.timeless ∧
        joined.1 = Text.joinWith "\n" (alone.1.filter (· ≠ "")) ↔
      mkdirOperands args ≠ [] ∧
        ((∀ operand ∈ mkdirOperands args, ¬session.tree.Refuses parents (place operand)) ∨
          ∃ before operand after, mkdirOperands args = before ++ operand :: after ∧
            session.tree.Refuses parents (place operand) ∧
            ∀ other ∈ before ++ after,
              parents = true ∧ session.tree.content? (place other) = some .dir) := by
  intro joined alone place parents
  have hflags : ∀ run ∈ runs, isMkdirFlag run.2 = false := by
    intro run hrun
    have hmem : run.2 ∈ mkdirOperands args := hruns ▸ List.mem_map_of_mem hrun
    simpa using (List.mem_filter.1 hmem).2
  have halone : alone =
      ((mkdirOneByOne session.cwd parents runs session.tree).1,
        { session with tree := (mkdirOneByOne session.cwd parents runs session.tree).2 }) :=
    calls_mkdirAlone hflags session
  have hjoined : joined =
      (putOut Builtin.mkdir.name ((mkdir now session.cwd args).outcome session.tree),
        { session with tree := (mkdir now session.cwd args).after session.tree }) :=
    call_mkdir now args session
  rw [halone, hjoined]
  dsimp only
  by_cases hempty : mkdirOperands args = []
  · -- without operands `mkdir` complains, and no single call does
    obtain rfl : runs = [] := List.map_eq_nil_iff.1 (hruns.trans hempty)
    rw [mkdir_eq_pure hempty]
    refine iff_of_false (fun heq => ?_) fun hcondition => hcondition.1 hempty
    have hcomplaint : "mkdir: missing operand" = "" := heq.2
    exact absurd hcomplaint (by decide)
  · rw [mkdir_eq_mkdirEach hempty, ← hruns, List.forall_mem_map]
    refine (mkdirEach_eq_one_by_one_iff h.cwd now runs session.tree).trans ?_
    refine (or_congr Iff.rfl ?_).trans (and_iff_right (hruns ▸ hempty)).symm
    constructor
    · rintro ⟨before, run, after, rfl, hrefused, hothers⟩
      refine ⟨before.map Prod.snd, run.2, after.map Prod.snd, by simp, hrefused, ?_⟩
      rw [← List.map_append, List.forall_mem_map]
      exact hothers
    · rintro ⟨before, operand, after, hsplit, hrefused, hothers⟩
      obtain ⟨runsBefore, runsBehind, rfl, rfl, hbehind⟩ := List.map_eq_append_iff.1 hsplit
      obtain ⟨run, runsAfter, rfl, rfl, rfl⟩ := List.map_eq_cons_iff.1 hbehind
      refine ⟨runsBefore, run, runsAfter, rfl, hrefused, ?_⟩
      rwa [← List.map_append, List.forall_mem_map] at hothers

/-- A directory in one that is there, that one itself, and one further down. -/
theorem nested_directories_at_once :
    let requests : List Request :=
      [⟨1, "/", .mkdir "a" false false⟩, ⟨2, "/", .writeFile "f" "text" false⟩]
    let session := Session.start (FileTree.empty.afterRequests requests) Catalog.default "user" "host"
      ⟨2024, 1, 2, 3, 4, 5⟩
    let joined := Builtin.mkdir.command.call 3 Builtin.mkdir.name ["-p", "a/b", "a", "a/b/c"] session
    let alone := Builtin.mkdir.command.calls Builtin.mkdir.name
      [(3, ["-p", "a/b"]), (4, ["-p", "a"]), (5, ["-p", "a/b/c"])] session
    joined.2.tree.timeless = alone.2.tree.timeless ∧
      joined.1 = Text.joinWith "\n" (alone.1.filter (· ≠ "")) := by
  intro requests session joined alone
  have hempty : FileTree.empty.WellNamed := trivial
  have hnamed : session.Named := Session.named_start (hempty.afterRequests requests) _ _ _ _
  have halone : [(3, "a/b"), (4, "a"), (5, "a/b/c")].map
      (fun run => (run.1, mkdirAlone ["-p", "a/b", "a", "a/b/c"] run.2)) =
        [(3, ["-p", "a/b"]), (4, ["-p", "a"]), (5, ["-p", "a/b/c"])] := by decide
  have hsame := mkdir_eq_one_by_one_iff hnamed 3 ["-p", "a/b", "a", "a/b/c"]
    [(3, "a/b"), (4, "a"), (5, "a/b/c")] (by decide)
  rw [halone] at hsame
  exact hsame.2 ⟨by decide, Or.inl (by decide +kernel)⟩

/-- The root is refused, and the operand behind it is not seen to: one by one it would be made. -/
theorem root_hides_later_directory :
    let session := Session.start FileTree.empty Catalog.default "user" "host" ⟨2024, 1, 2, 3, 4, 5⟩
    let joined := Builtin.mkdir.command.call 1 Builtin.mkdir.name ["/", "a"] session
    let alone := Builtin.mkdir.command.calls Builtin.mkdir.name [(1, ["/"]), (2, ["a"])] session
    ¬(joined.2.tree.timeless = alone.2.tree.timeless ∧
      joined.1 = Text.joinWith "\n" (alone.1.filter (· ≠ ""))) := by
  decide +kernel

end Shell
end Shellbox
