import Shellbox.Proofs.Creation
import Shellbox.Proofs.SessionNames
/-!
# What `touch` tells of what it makes

`touch` sees to its operands one after the other, and keeps a line for each one whose path holds
nothing when its turn comes. So a path that comes more than once is told with its first operand
(`Shell.run_touchEach_append`). Touching makes and loses no directory, hence which operands can be
touched at all (`FileTree.Touchable`) does not change during a run
(`FileTree.touchable_after_touch_iff`).

The lines are put out when the last operand has been seen to. An operand that cannot be touched ends
the run, and its failure is all that is put out: one line that tells of no file, since there is no line
feed in the path that it names (`Shell.creationReports_touch_error`). What was made before is there and
is not told (`Shell.reports_eq_iff_of_not_touchable`). `Shell.touch_reports_iff` says of the command in
a session when the output tells all that was made.
-/

namespace Shellbox

/-- What is on the way to a path, and not the path itself, is on the way to the one above it. -/
theorem Path.prefix_dropLast {path other : Path} (h : other <+: path) (hne : other ≠ path) :
    other <+: path.dropLast := by
  rcases List.eq_nil_or_concat' path with rfl | ⟨parent, name, rfl⟩
  · exact h
  · rw [List.dropLast_concat]
    exact (List.prefix_concat_iff.1 h).resolve_left hne

namespace FileTree

variable {now : Nat} {path other : Path} {tree : FileTree}

/-- A path can be touched if it is not the root, the directory above it is there and it holds no
directory itself. -/
def Touchable (tree : FileTree) (path : Path) : Prop :=
  path ≠ [] ∧ tree.content? path.dropLast = some .dir ∧ tree.content? path ≠ some .dir

instance (tree : FileTree) (path : Path) : Decidable (tree.Touchable path) :=
  inferInstanceAs (Decidable (_ ∧ _ ∧ _))

/-- There can be a file, without a directory being made, exactly where one can be touched. -/
theorem ensureFile_succeeds_iff :
    (Edit.ensureFile now false path).outcome tree = .ok () ↔ tree.Touchable path := by
  rcases List.eq_nil_or_concat' path with rfl | ⟨parent, name, rfl⟩
  · rw [Edit.ensureFile_nil]
    simp [Touchable]
  · have hopens := @Edit.exists_outcome_openDir_false_iff now parent tree
    rw [Edit.outcome_ensureFile_append, Touchable, List.dropLast_concat, ← hopens]
    cases (Edit.openDir now false parent).outcome tree with
    | error fault => simp
    | ok inside => simp

theorem touch_succeeds_iff :
    (Edit.touch now path).outcome tree = .ok path ↔ tree.Touchable path := by
  rw [Edit.outcome_touch_eq_ok_iff, ensureFile_succeeds_iff]

theorem write_succeeds_iff {text : String} :
    (Edit.writeFile now path text false).outcome tree = .ok path ↔ tree.Touchable path := by
  rw [Edit.outcome_writeFile_eq_ok_iff, ensureFile_succeeds_iff]

theorem touch_fails_iff :
    (∃ fault, (Edit.touch now path).outcome tree = .error fault) ↔ ¬tree.Touchable path := by
  rw [← @touch_succeeds_iff now, Edit.outcome_touch]
  cases (Edit.ensureFile now false path).outcome tree <;> simp [Except.map]

/-- A file that cannot be written leaves the tree as it is, with all its stamps. -/
theorem after_write_of_not_touchable (h : ¬tree.Touchable path) (text : String) :
    (Edit.writeFile now path text false).after tree = tree := by
  cases hensure : (Edit.ensureFile now false path).outcome tree with
  | ok done => exact absurd (ensureFile_succeeds_iff.1 hensure) h
  | error fault =>
    exact Edit.Atomic.writeFile tree fault (by rw [Edit.outcome_writeFile, hensure]; rfl)

/-- A failure to touch a path is about the root or about a place on the way to the path. -/
theorem fault_of_outcome_touch {fault : Fault}
    (h : (Edit.touch now path).outcome tree = .error fault) :
    fault = .rootAsTarget ∨ ∃ front, front <+: path ∧
      (fault = .missing front ∨ fault = .notADirectory front ∨ fault = .isADirectory front) := by
  rw [Edit.outcome_touch] at h
  rcases List.eq_nil_or_concat' path with rfl | ⟨parent, name, rfl⟩
  · cases h
    exact Or.inl rfl
  · rw [Edit.outcome_ensureFile_append] at h
    cases hopen : (Edit.openDir now false parent).outcome tree with
    | error cause =>
      rw [hopen] at h
      cases h
      obtain ⟨front, hfront, -, hcause⟩ := Edit.outcome_openDir_eq_error_iff.1 hopen
      rw [List.nil_append] at hcause
      refine Or.inr ⟨front, hfront.trans (List.prefix_append ..), ?_⟩
      rcases hcause with ⟨-, rfl⟩ | ⟨-, -, rfl⟩
      · exact Or.inr (Or.inl rfl)
      · exact Or.inl rfl
    | ok inside =>
      rw [hopen] at h
      dsimp only at h
      split_ifs at h
      · cases h
      · cases h
        exact Or.inr ⟨parent ++ [name], List.prefix_refl _, Or.inr (Or.inr rfl)⟩

/-- Where a file is, it can be touched. -/
theorem Touchable.of_hasFile (h : tree.hasFile path = true) : tree.Touchable path := by
  obtain ⟨text, hfile⟩ := hasFile_iff.1 h
  rcases List.eq_nil_or_concat' path with rfl | ⟨parent, name, rfl⟩
  · cases hfile
  · have hparent : tree.content? parent = some .dir :=
      content?_of_append (List.cons_ne_nil name []) (by rw [hfile]; exact Option.some_ne_none _)
    refine ⟨by simp, ?_, ?_⟩
    · rwa [List.dropLast_concat]
    · rw [hfile]
      simp

/-- A path that can be touched holds nothing or a file. -/
theorem Touchable.hasFile_iff_holds (h : tree.Touchable path) :
    tree.hasFile path = true ↔ tree.holds path = true := by
  rw [hasFile_iff, holds_iff_content?]
  cases hheld : tree.content? path with
  | none => simp
  | some held =>
    cases held with
    | dir => exact absurd hheld h.2.2
    | file text => simp

/-- Nothing is missing above a path that can be touched, so that no directory comes about there. -/
theorem Touchable.or_on_way (h : tree.Touchable path) (hne : other ≠ path) :
    (tree.content? other).or (if other <+: path then some .dir else none) = tree.content? other := by
  cases hheld : tree.content? other with
  | some held => rfl
  | none =>
    have hway : ¬other <+: path := fun hway => by
      have hparent := content?_eq_none_of_prefix hheld (Path.prefix_dropLast hway hne)
      rw [h.2.1] at hparent
      cases hparent
    rw [if_neg hway]
    rfl

/-- Touching makes a file at most at its path, and leaves alone what all paths hold otherwise. -/
theorem Touchable.content?_after_touch (h : tree.Touchable path) (other : Path) :
    ((Edit.touch now path).after tree).content? other =
      if other = path then some ((tree.content? path).getD (.file "")) else tree.content? other := by
  rw [Edit.content?_after_touch (touch_succeeds_iff.2 h)]
  by_cases hother : other = path
  · rw [if_pos hother, if_pos hother]
  · rw [if_neg hother, if_neg hother, h.or_on_way hother]

/-- Writing a file leaves alone what all other paths hold. -/
theorem Touchable.content?_after_write (h : tree.Touchable path) (text : String) (other : Path) :
    ((Edit.writeFile now path text false).after tree).content? other =
      if other = path then some (.file text) else tree.content? other := by
  rw [Edit.content?_after_writeFile (write_succeeds_iff.2 h)]
  by_cases hother : other = path
  · rw [if_pos hother, if_pos hother]
  · rw [if_neg hother, if_neg hother, h.or_on_way hother]

theorem Touchable.holds_after_touch (h : tree.Touchable path) (other : Path) :
    ((Edit.touch now path).after tree).holds other = (other = path || tree.holds other) := by
  rw [Bool.eq_iff_iff, Bool.or_eq_true, decide_eq_true_iff, holds_iff_content?, holds_iff_content?,
    h.content?_after_touch]
  split_ifs with hother
  · simp [hother]
  · simp [hother]

/-- Touching makes and loses no directory. -/
theorem content?_touch_eq_dir_iff :
    ((Edit.touch now path).after tree).content? other = some .dir ↔
      tree.content? other = some .dir := by
  by_cases h : tree.Touchable path
  · rw [h.content?_after_touch]
    split_ifs with hother
    · subst hother
      cases hheld : tree.content? other <;> simp
    · rfl
  · obtain ⟨fault, hfault⟩ := (@touch_fails_iff now path tree).2 h
    rw [Edit.Atomic.touch tree fault hfault]

/-- So the same paths can be touched before and after. -/
theorem touchable_after_touch_iff :
    ((Edit.touch now path).after tree).Touchable other ↔ tree.Touchable other := by
  unfold Touchable
  simp only [ne_eq, content?_touch_eq_dir_iff]

end FileTree

namespace Shell

variable {now : Nat} {cwd : Path} {keep : Path → Bool} {operand : String}
  {operands before after created : List String} {tree : FileTree}

/-! ### Lines -/

theorem not_mem_append {c : Char} {front rest : String} (hfront : c ∉ front.toList)
    (hrest : c ∉ rest.toList) : c ∉ (front ++ rest).toList := by
  rw [String.toList_append, List.mem_append]
  exact not_or.2 ⟨hfront, hrest⟩

/-- The line that tells that the file of an operand was made. -/
def creationReport (operand : String) : String := "File created: " ++ operand

/-- The lines of an output that tell that a file was made. -/
def creationReports (output : String) : List String :=
  ((Text.pieces '\n' output.toList).filter "File created: ".toList.isPrefixOf).map String.ofList

/-- Lines that tell of files are found again in the output that they make up. -/
theorem creationReports_joinWith (h : ∀ operand ∈ operands, '\n' ∉ operand.toList) :
    creationReports (Text.joinWith "\n" (operands.map creationReport)) =
      operands.map creationReport := by
  rcases eq_or_ne operands [] with rfl | hsome
  · rfl
  have hlines : ∀ line ∈ (operands.map creationReport).map String.toList, '\n' ∉ line := by
    rw [List.map_map, List.forall_mem_map]
    intro operand hoperand
    exact not_mem_append (by decide) (h operand hoperand)
  have hstart : ∀ line ∈ (operands.map creationReport).map String.toList,
      "File created: ".toList.isPrefixOf line = true := by
    rw [List.map_map, List.forall_mem_map]
    intro operand _
    rw [Function.comp_apply, creationReport, String.toList_append, List.isPrefixOf_iff_prefix]
    exact List.prefix_append ..
  have hsep : "\n".toList = ['\n'] := rfl
  rw [creationReports, Text.toList_joinWith, hsep, Text.pieces_joined (by simpa using hsome) hlines,
    List.filter_eq_self.2 hstart, List.map_map]
  simp

/-- A failure of `touch` tells of no file. -/
theorem creationReports_touch_error (hcwd : ∀ name ∈ cwd, '\n' ∉ name.toList)
    (hoperand : '\n' ∉ operand.toList) {fault : Fault}
    (h : (Edit.touch now (Path.readFrom cwd operand)).outcome tree = .error fault) :
    creationReports (putOut Builtin.touch.name (.error fault)) = [] := by
  have hline : '\n' ∉ fault.message.toList := by
    rcases FileTree.fault_of_outcome_touch h with rfl | ⟨front, hfront, hcause⟩
    · decide
    · have hnames := Path.not_mem_of_mem_readFrom hcwd hoperand
      have hslash : '\n' ≠ '/' := by decide
      have hrender := Path.not_mem_render hslash fun name hname => hnames name (hfront.subset hname)
      rcases hcause with rfl | rfl | rfl
      · exact not_mem_append hrender (by decide)
      · exact not_mem_append hrender (by decide)
      · exact not_mem_append hrender (by decide)
  have hput : putOut Builtin.touch.name (.error fault) = "touch: " ++ fault.message := rfl
  have hwhole := @not_mem_append '\n' "touch: " _ (by decide) hline
  rw [hput, creationReports, Text.pieces_of_not_mem hwhole, String.toList_append]
  rfl

/-! ### Operands -/

/-- The operands whose paths are to be kept, and of those that mean the same path only the first. -/
def firstOperands (cwd : Path) (keep : Path → Bool) (operands : List String) : List String :=
  (operands.filter fun operand => keep (Path.readFrom cwd operand)).eraseDupsBy
    fun later earlier => Path.readFrom cwd later = Path.readFrom cwd earlier

/-- The operands at whose paths nothing was before and a file is after, each path with the first operand
that means it. -/
def newlyMade (before after : FileTree) (cwd : Path) (operands : List String) : List String :=
  firstOperands cwd (fun path => !before.holds path && after.hasFile path) operands

theorem firstOperands_cons_of_keep (h : keep (Path.readFrom cwd operand) = true) :
    firstOperands cwd keep (operand :: operands) =
      operand :: firstOperands cwd (fun path => !(path = Path.readFrom cwd operand) && keep path)
        operands := by
  have hkept : (operand :: operands).filter (fun other => keep (Path.readFrom cwd other)) =
      operand :: operands.filter fun other => keep (Path.readFrom cwd other) :=
    List.filter_cons_of_pos h
  rw [firstOperands, hkept, List.eraseDupsBy_cons, List.filter_filter, firstOperands]
  simp

theorem firstOperands_cons_of_not_keep (h : keep (Path.readFrom cwd operand) = false) :
    firstOperands cwd keep (operand :: operands) = firstOperands cwd keep operands := by
  rw [firstOperands, List.filter_cons_of_neg (by simp [h]), firstOperands]

theorem firstOperands_congr {other : Path → Bool}
    (h : ∀ operand ∈ operands, keep (Path.readFrom cwd operand) = other (Path.readFrom cwd operand)) :
    firstOperands cwd keep operands = firstOperands cwd other operands := by
  rw [firstOperands, List.filter_congr h, firstOperands]

theorem firstOperands_eq_nil_iff :
    firstOperands cwd keep operands = [] ↔
      ∀ operand ∈ operands, keep (Path.readFrom cwd operand) = false := by
  induction operands with
  | nil => simp [firstOperands]
  | cons operand rest ih =>
    rw [List.forall_mem_cons]
    cases hkeep : keep (Path.readFrom cwd operand) with
    | true => simp [firstOperands_cons_of_keep hkeep]
    | false => simp [firstOperands_cons_of_not_keep hkeep, ih]

theorem mem_of_mem_firstOperands (h : operand ∈ firstOperands cwd keep operands) :
    operand ∈ operands := by
  induction operands generalizing keep with
  | nil => exact h
  | cons first rest ih =>
    cases hkeep : keep (Path.readFrom cwd first) with
    | true =>
      rw [firstOperands_cons_of_keep hkeep] at h
      rcases List.mem_cons.1 h with rfl | h
      · exact List.mem_cons_self
      · exact List.mem_cons_of_mem _ (ih h)
    | false =>
      rw [firstOperands_cons_of_not_keep hkeep] at h
      exact List.mem_cons_of_mem _ (ih h)

/-! ### The run -/

/-- The tree after the paths of some operands were touched. -/
def touchAll (now : Nat) (cwd : Path) (operands : List String) (tree : FileTree) : FileTree :=
  operands.foldl (fun tree operand => (Edit.touch now (Path.readFrom cwd operand)).after tree) tree

theorem still_touchable (h : ∀ operand ∈ operands, tree.Touchable (Path.readFrom cwd operand))
    (path : Path) : ∀ operand ∈ operands,
      ((Edit.touch now path).after tree).Touchable (Path.readFrom cwd operand) :=
  fun operand hoperand => FileTree.touchable_after_touch_iff.2 (h operand hoperand)

/-- After operands that can be touched, their paths hold what they held or an empty file. -/
theorem content?_touchAll
    (h : ∀ operand ∈ operands, tree.Touchable (Path.readFrom cwd operand)) (path : Path) :
    (touchAll now cwd operands tree).content? path =
      if path ∈ operands.map (Path.readFrom cwd) then some ((tree.content? path).getD (.file ""))
      else tree.content? path := by
  induction operands generalizing tree with
  | nil => rfl
  | cons operand rest ih =>
    obtain ⟨hoperand, hrest⟩ := List.forall_mem_cons.1 h
    rw [touchAll, List.foldl_cons]
    refine (ih (still_touchable hrest _)).trans ?_
    rw [hoperand.content?_after_touch, List.map_cons]
    by_cases hpath : path = Path.readFrom cwd operand
    · subst hpath
      simp
    · simp [hpath]

theorem hasFile_touchAll_iff
    (h : ∀ operand ∈ operands, tree.Touchable (Path.readFrom cwd operand)) (path : Path) :
    (touchAll now cwd operands tree).hasFile path = true ↔
      path ∈ operands.map (Path.readFrom cwd) ∨ tree.hasFile path = true := by
  rw [FileTree.hasFile_iff, FileTree.hasFile_iff, content?_touchAll h]
  split_ifs with hpath
  · obtain ⟨operand, hoperand, rfl⟩ := List.mem_map.1 hpath
    refine iff_of_true ?_ (Or.inl hpath)
    cases hheld : tree.content? (Path.readFrom cwd operand) with
    | none => exact ⟨"", rfl⟩
    | some held =>
      cases held with
      | dir => exact absurd hheld (h operand hoperand).2.2
      | file text => exact ⟨text, rfl⟩
  · simp [hpath]

theorem touchable_touchAll_iff {path : Path} :
    (touchAll now cwd operands tree).Touchable path ↔ tree.Touchable path := by
  induction operands generalizing tree with
  | nil => exact Iff.rfl
  | cons operand rest ih => exact ih.trans FileTree.touchable_after_touch_iff

/-- As long as operands can be touched, the lines that are kept tell of those whose paths held nothing,
each path once. -/
theorem run_touchEach_append
    (h : ∀ operand ∈ before, tree.Touchable (Path.readFrom cwd operand)) :
    (touchEach now cwd created (before ++ after)).run.run tree =
      (touchEach now cwd
        (((firstOperands cwd (!tree.holds ·) before).map creationReport).reverse ++ created)
        after).run.run (touchAll now cwd before tree) := by
  induction before generalizing tree created with
  | nil => rfl
  | cons operand rest ih =>
    obtain ⟨hoperand, hrest⟩ := List.forall_mem_cons.1 h
    have hget : (get : Edit FileTree).outcome tree = .ok tree := rfl
    rw [List.cons_append, touchEach, Edit.run_bind_of_ok tree hget, Edit.after_get,
      Edit.run_bind_of_ok tree (FileTree.touch_succeeds_iff.2 hoperand),
      ih (still_touchable hrest _)]
    simp only [hoperand.holds_after_touch, Bool.not_or]
    cases hholds : tree.holds (Path.readFrom cwd operand) with
    | true =>
      -- a path that is there is told neither now nor later
      have htold : firstOperands cwd
          (fun path => !decide (path = Path.readFrom cwd operand) && !tree.holds path) rest =
            firstOperands cwd (!tree.holds ·) rest := by
        refine firstOperands_congr fun other _ => ?_
        by_cases hsame : Path.readFrom cwd other = Path.readFrom cwd operand
        · simp [hsame, hholds]
        · simp [hsame]
      rw [firstOperands_cons_of_not_keep (by simp [hholds]), htold]
      rfl
    | false =>
      rw [firstOperands_cons_of_keep (by simp [hholds]), List.map_cons, List.reverse_cons,
        List.append_assoc]
      rfl

/-- The first operand that cannot be touched ends the run, with its failure. -/
theorem run_touchEach_of_not_touchable
    (hbefore : ∀ operand ∈ before, tree.Touchable (Path.readFrom cwd operand))
    (h : ¬tree.Touchable (Path.readFrom cwd operand)) :
    ∃ fault, (Edit.touch now (Path.readFrom cwd operand)).outcome (touchAll now cwd before tree) =
        .error fault ∧
      (touchEach now cwd created (before ++ operand :: after)).run.run tree =
        (.error fault, touchAll now cwd before tree) := by
  obtain ⟨fault, hfault⟩ := (@FileTree.touch_fails_iff now _ (touchAll now cwd before tree)).2
    (mt touchable_touchAll_iff.1 h)
  have hget : (get : Edit FileTree).outcome (touchAll now cwd before tree) =
      .ok (touchAll now cwd before tree) := rfl
  refine ⟨fault, hfault, ?_⟩
  rw [run_touchEach_append hbefore, touchEach, Edit.run_bind_of_ok _ hget, Edit.after_get,
    Edit.run_bind_of_error _ hfault, Edit.Atomic.touch _ _ hfault]

section Reports

variable (hcwd : ∀ name ∈ cwd, '\n' ∉ name.toList)
include hcwd

/-- Once an operand cannot be touched, all that was made is told exactly if nothing was made: all
operands before it are files that were there. -/
theorem reports_eq_iff_of_not_touchable
    (hbefore : ∀ operand ∈ before, tree.Touchable (Path.readFrom cwd operand))
    (hoperand : ¬tree.Touchable (Path.readFrom cwd operand)) (hline : '\n' ∉ operand.toList)
    (now : Nat) :
    let operands := before ++ operand :: after
    let edit := touchEach now cwd [] operands
    creationReports (putOut Builtin.touch.name (edit.outcome tree)) =
        (newlyMade tree (edit.after tree) cwd operands).map creationReport ↔
      ∀ other ∈ before, tree.hasFile (Path.readFrom cwd other) = true := by
  intro operands edit
  obtain ⟨fault, hfault, hrun⟩ := @run_touchEach_of_not_touchable now cwd operand before after [] tree
    hbefore hoperand
  have houtcome : edit.outcome tree = .error fault := congrArg Prod.fst hrun
  have hafter : edit.after tree = touchAll now cwd before tree := congrArg Prod.snd hrun
  rw [houtcome, hafter, creationReports_touch_error hcwd hline hfault, eq_comm, List.map_eq_nil_iff,
    newlyMade, firstOperands_eq_nil_iff]
  constructor
  · intro hnone other hother
    have hthere := hnone other (List.mem_append_left _ hother)
    have hmade : (touchAll now cwd before tree).hasFile (Path.readFrom cwd other) = true :=
      (hasFile_touchAll_iff hbefore _).2 (Or.inl (List.mem_map_of_mem hother))
    rw [(hbefore other hother).hasFile_iff_holds]
    simpa [hmade] using hthere
  · intro hfiles other _
    cases hmade : (touchAll now cwd before tree).hasFile (Path.readFrom cwd other) with
    | false => simp
    | true =>
      have hfile : tree.hasFile (Path.readFrom cwd other) = true := by
        rcases (hasFile_touchAll_iff hbefore _).1 hmade with hsame | hfile
        · obtain ⟨earlier, hearlier, hsame⟩ := List.mem_map.1 hsame
          rw [← hsame]
          exact hfiles earlier hearlier
        · exact hfile
      have htouchable := FileTree.Touchable.of_hasFile hfile
      simp [htouchable.hasFile_iff_holds.1 hfile]

/-- When the lines of `touch` tell all that it made. -/
theorem touchEach_reports_iff (hlines : ∀ operand ∈ operands, '\n' ∉ operand.toList) (now : Nat) :
    let edit := touchEach now cwd [] operands
    creationReports (putOut Builtin.touch.name (edit.outcome tree)) =
        (newlyMade tree (edit.after tree) cwd operands).map creationReport ↔
      (∀ operand ∈ operands, tree.Touchable (Path.readFrom cwd operand)) ∨
        ∃ before operand after, operands = before ++ operand :: after ∧
          ¬tree.Touchable (Path.readFrom cwd operand) ∧
          ∀ other ∈ before, tree.hasFile (Path.readFrom cwd other) = true := by
  intro edit
  rcases forall_or_exists_first (fun operand => tree.Touchable (Path.readFrom cwd operand))
    operands with hall | ⟨before, operand, after, hsplit, hoperand, hbefore⟩
  · -- the run goes to the end, and puts out the lines that it kept
    have hrun := @run_touchEach_append now cwd operands [] [] tree hall
    rw [List.append_nil, List.append_nil] at hrun
    have houtcome : edit.outcome tree = .ok (Text.joinWith "\n"
        ((firstOperands cwd (!tree.holds ·) operands).map creationReport)) := by
      refine (congrArg Prod.fst hrun).trans (congrArg (Except.ok ∘ Text.joinWith "\n") ?_)
      exact List.reverse_reverse _
    have hafter : edit.after tree = touchAll now cwd operands tree := congrArg Prod.snd hrun
    have hmade : newlyMade tree (edit.after tree) cwd operands =
        firstOperands cwd (!tree.holds ·) operands := by
      refine firstOperands_congr fun operand hoperand => ?_
      rw [hafter, (hasFile_touchAll_iff hall _).2 (Or.inl (List.mem_map_of_mem hoperand)),
        Bool.and_true]
    refine iff_of_true ?_ (Or.inl hall)
    rw [houtcome, hmade]
    exact creationReports_joinWith fun operand hoperand =>
      hlines operand (mem_of_mem_firstOperands hoperand)
  · constructor
    · intro htold
      refine Or.inr ⟨before, operand, after, hsplit, hoperand, ?_⟩
      have hline : '\n' ∉ operand.toList := hlines operand (by simp [hsplit])
      simp only [edit, hsplit] at htold
      exact (reports_eq_iff_of_not_touchable hcwd hbefore hoperand hline now).1 htold
    · rintro (hall | ⟨before, operand, after, hsplit, hoperand, hfiles⟩)
      · exact absurd (hall operand (by simp [hsplit])) hoperand
      · have hbefore : ∀ other ∈ before, tree.Touchable (Path.readFrom cwd other) :=
          fun other hother => FileTree.Touchable.of_hasFile (hfiles other hother)
        have hline : '\n' ∉ operand.toList := hlines operand (by simp [hsplit])
        simp only [edit, hsplit]
        exact (reports_eq_iff_of_not_touchable hcwd hbefore hoperand hline now).2 hfiles

end Reports

/-! ### Sessions -/

/-- **When `touch` tells all that it made.** For operands without line feeds, as the words of a line are:
the lines of the output that tell of files are one for each path that held nothing before the call and
holds a file after it, in the order of the first operands that mean these paths, exactly if all operands
can be touched, or there is one that cannot and all operands before it are files that were there. -/
theorem touch_reports_iff {session : Session} (h : session.Named) (now : Nat)
    {operands : List String} (hlines : ∀ operand ∈ operands, '\n' ∉ operand.toList) :
    let called := Builtin.touch.command.call now Builtin.touch.name operands session
    let place := Path.readFrom session.cwd
    creationReports called.1 =
        (newlyMade session.tree called.2.tree session.cwd operands).map creationReport ↔
      (∀ operand ∈ operands, session.tree.Touchable (place operand)) ∨
        ∃ before operand after, operands = before ++ operand :: after ∧
          ¬session.tree.Touchable (place operand) ∧
          ∀ other ∈ before, session.tree.hasFile (place other) = true := by
  intro called place
  have hcalled : called = (putOut Builtin.touch.name
        ((touch now session.cwd operands).outcome session.tree),
      { session with tree := (touch now session.cwd operands).after session.tree }) :=
    Command.call_of_edit rfl now _ operands session
  rw [hcalled]
  dsimp only
  rcases eq_or_ne operands [] with rfl | hsome
  · -- the complaint about the missing operands tells of no file, and there is nothing to tell
    have hcomplaint : creationReports "touch: missing file operand" = [] := by decide
    exact iff_of_true hcomplaint (Or.inl fun _ hmem => absurd hmem List.not_mem_nil)
  · have htouch : touch now session.cwd operands = touchEach now session.cwd [] operands :=
      if_neg (mt List.isEmpty_iff.1 hsome)
    rw [htouch]
    exact touchEach_reports_iff h.unbroken hlines now

/-- A file that is there, a new one, and the new one again by another path. -/
theorem new_file_is_told_once :
    let requests : List Request :=
      [⟨1, "/", .mkdir "a" false false⟩, ⟨2, "/", .writeFile "a/f" "text" false⟩]
    let session := Session.start (FileTree.empty.afterRequests requests) Catalog.default "user" "host"
      ⟨2024, 1, 2, 3, 4, 5⟩
    let operands := ["a/f", "a/./g", "h", "a/g"]
    let called := Builtin.touch.command.call 3 Builtin.touch.name operands session
    called.1 = "File created: a/./g\nFile created: h" ∧
      creationReports called.1 =
        (newlyMade session.tree called.2.tree session.cwd operands).map creationReport := by
  intro requests session operands
  have hempty : FileTree.empty.WellNamed := trivial
  have hnamed : session.Named := Session.named_start (hempty.afterRequests requests) _ _ _ _
  have hlines : ∀ operand ∈ operands, '\n' ∉ operand.toList := by decide
  have htold := touch_reports_iff hnamed 3 hlines
  exact ⟨by decide +kernel, htold.2 (Or.inl (by decide +kernel))⟩

/-- The first operand is made and not told, since the second one cannot be touched. -/
theorem failure_hides_new_file :
    let session := Session.start FileTree.empty Catalog.default "user" "host" ⟨2024, 1, 2, 3, 4, 5⟩
    let operands := ["a", "x/y"]
    let called := Builtin.touch.command.call 1 Builtin.touch.name operands session
    ¬creationReports called.1 =
      (newlyMade session.tree called.2.tree session.cwd operands).map creationReport := by
  decide +kernel

end Shell
end Shellbox
