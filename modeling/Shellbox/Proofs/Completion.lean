import Shellbox.Proofs.ListedCommands
import Shellbox.Proofs.LowerCase
import Shellbox.Proofs.TreePaths
import Shellbox.Proofs.WellNamed
import Shellbox.Proofs.WorkingDirectory
import Shellbox.Shell.Completion
/-!
# Completed lines

A line stays as it is, or it becomes `cd` and the name of the one child that it is completed to
(`Session.complete_cases`). Such a line is read in words again, by the next completion as well as by
the shell.

Completing a completed line changes nothing (`Session.complete_complete`). A name that is read as one
word is this word with blanks behind it, and the word, in lower case, starts with what was typed
(`Text.lower_prefix_of_words`). So the children whose names start with the word are among those whose names
start with what was typed, and there was only one.

A completed line that is run leads into the child if this is a directory with a name that is read as
itself, which is one without blanks (`Session.run_completed_iff`, `Session.run_complete`).
-/

namespace Shellbox

/-! ### Texts of one word -/

namespace Text

variable {text start word w : List Char}

theorem wordsFrom_ne_nil (h : word ≠ []) : wordsFrom word text ≠ [] := by
  fun_induction wordsFrom word text with
  | case1 word hempty => exact absurd (List.isEmpty_iff.1 hempty) h
  | case2 word hempty => exact List.cons_ne_nil _ _
  | case3 word c rest hblank hempty ih => exact absurd (List.isEmpty_iff.1 hempty) h
  | case4 word c rest hblank hempty ih => exact List.cons_ne_nil _ _
  | case5 word c rest hblank ih => exact ih (List.cons_ne_nil _ _)

theorem ne_nil_of_mem_wordsFrom (h : w ∈ wordsFrom word text) : w ≠ [] := by
  fun_induction wordsFrom word text with
  | case1 word hempty => exact absurd h List.not_mem_nil
  | case2 word hempty =>
    rw [List.mem_singleton.1 h, ne_eq, List.reverse_eq_nil_iff]
    exact fun hnil => hempty (List.isEmpty_iff.2 hnil)
  | case3 word c rest hblank hempty ih => exact ih h
  | case4 word c rest hblank hempty ih =>
    rcases List.mem_cons.1 h with rfl | h
    · rw [ne_eq, List.reverse_eq_nil_iff]
      exact fun hnil => hempty (List.isEmpty_iff.2 hnil)
    · exact ih h
  | case5 word c rest hblank ih => exact ih h

/-- A text without words is blank. -/
theorem isBlank_of_words_eq_nil (h : words text = []) : ∀ c ∈ text, isBlank c := by
  induction text with
  | nil => exact fun _ hc => absurd hc List.not_mem_nil
  | cons c rest ih =>
    by_cases hc : isBlank c
    · rw [words, wordsFrom, if_pos hc, List.isEmpty_nil, if_pos rfl] at h
      exact List.forall_mem_cons.2 ⟨hc, ih h⟩
    · rw [words, wordsFrom, if_neg hc] at h
      exact absurd h (wordsFrom_ne_nil (List.cons_ne_nil _ _))

/-- Behind the last word of a text there are blanks. -/
theorem exists_blanks_of_wordsFrom (hne : word ≠ []) (h : wordsFrom word text = [w]) :
    ∃ blanks, word.reverse ++ text = w ++ blanks ∧ ∀ c ∈ blanks, isBlank c := by
  fun_induction wordsFrom word text with
  | case1 word hempty => exact absurd (List.isEmpty_iff.1 hempty) hne
  | case2 word hempty =>
    exact ⟨[], by rw [List.singleton_inj.1 h], fun _ hc => absurd hc List.not_mem_nil⟩
  | case3 word c rest hblank hempty ih => exact absurd (List.isEmpty_iff.1 hempty) hne
  | case4 word c rest hblank hempty ih =>
    obtain ⟨hword, hrest⟩ := List.cons_eq_cons.1 h
    exact ⟨c :: rest, by rw [hword],
      List.forall_mem_cons.2 ⟨hblank, isBlank_of_words_eq_nil hrest⟩⟩
  | case5 word c rest hblank ih =>
    obtain ⟨blanks, htext, hblanks⟩ := ih (List.cons_ne_nil _ _) h
    exact ⟨blanks, by simpa using htext, hblanks⟩

theorem lowerChar_ne_nil (final : Bool) (c : Char) : lowerChar final c ≠ [] := by
  rw [lowerChar]
  split_ifs <;> exact List.cons_ne_nil _ _

theorem lower_ne_nil (h : text ≠ []) : lower text ≠ [] := by
  obtain ⟨c, rest, rfl⟩ := List.exists_cons_of_ne_nil h
  rw [lower_eq, lowerBetween]
  exact List.append_ne_nil_of_left_ne_nil (lowerChar_ne_nil _ c) _

/-- A text without blanks at the start of one with blanks at its end is at the start without them. -/
theorem prefix_of_prefix_append {front blanks : List Char} (htext : ∀ c ∈ text, isBlank c = false)
    (hblanks : ∀ c ∈ blanks, isBlank c) (h : text <+: front ++ blanks) : text <+: front := by
  rcases List.prefix_or_prefix_of_prefix h (List.prefix_append front blanks) with h' | ⟨rest, rfl⟩
  · exact h'
  · have hrest := (List.prefix_append_right_inj front).1 h
    cases rest with
    | nil => rw [List.append_nil]
    | cons c more =>
      have hnot := htext c (List.mem_append_right _ List.mem_cons_self)
      rw [hblanks c (hrest.subset List.mem_cons_self)] at hnot
      cases hnot

/-- If a text starts, in lower case, with something without blanks and is read as one word, then the
word starts with it too. -/
theorem lower_prefix_of_words (hne : start ≠ []) (hblank : ∀ c ∈ start, isBlank c = false)
    (hstarts : lower start <+: lower text) (hwords : words text = [w]) :
    lower start <+: lower w ∧ lower w <+: lower text := by
  have hlower := not_isBlank_of_mem_lower hblank
  obtain ⟨blanks, rfl, hblanks⟩ : ∃ blanks, text = w ++ blanks ∧ ∀ c ∈ blanks, isBlank c := by
    cases text with
    | nil => cases hwords
    | cons c rest =>
      -- the first character is no blank, as it is the first of what was typed
      have hc : ¬isBlank c := by
        intro hc
        obtain ⟨d, more, hstart⟩ := List.exists_cons_of_ne_nil (lower_ne_nil hne)
        rw [lower_eq (c :: rest), lowerBetween, lowerChar_of_isBlank hc, hstart,
          List.singleton_append, List.cons_prefix_cons] at hstarts
        have hd := hlower d (by rw [hstart]; exact List.mem_cons_self)
        rw [hstarts.1, hc] at hd
        cases hd
      rw [words, wordsFrom, if_neg hc] at hwords
      exact exists_blanks_of_wordsFrom (List.cons_ne_nil _ _) hwords
  rw [lower_append_blanks hblanks] at hstarts ⊢
  exact ⟨prefix_of_prefix_append hlower hblanks hstarts, List.prefix_append _ _⟩

end Text

namespace Shell

variable {session : Session} {line name : String}

/-- The words of a line are words. -/
theorem isWord_of_mem_lineWords (h : name ∈ lineWords line) : IsWord name := by
  obtain ⟨letters, hletters, rfl⟩ := List.mem_map.1 h
  refine ⟨fun hempty => ?_, fun c hc => ?_⟩
  · exact Text.ne_nil_of_mem_wordsFrom hletters (String.ofList_eq_empty_iff.1 hempty)
  · rw [String.toList_ofList] at hc
    exact Text.not_isBlank_of_mem_words hletters hc

/-! ### What a line is completed to -/

namespace Session

/-- The line asks for a child of the working directory, and there is exactly one, of the given name. -/
def CompletesTo (session : Session) (line name : String) : Prop :=
  ∃ first start, lineWords line = [first, start] ∧ Text.lowerString first = "cd" ∧
    session.completions start = [name]

theorem CompletesTo.complete_eq (h : session.CompletesTo line name) :
    session.complete line = "cd " ++ name := by
  obtain ⟨first, start, hwords, hfirst, hnames⟩ := h
  rw [complete, hwords]
  simp only [hfirst, if_true, hnames]

/-- A line stays as it is, or it is completed to a child. -/
theorem complete_cases (session : Session) (line : String) :
    session.complete line = line ∨ ∃ name, session.CompletesTo line name := by
  unfold complete
  split
  next first start hwords =>
    split_ifs with hfirst
    · split
      next name hnames => exact Or.inr ⟨name, first, start, hwords, hfirst, hnames⟩
      next => exact Or.inl rfl
    · exact Or.inl rfl
  next => exact Or.inl rfl

/-- There are some names, those of the children or none, of which the completions are those that start
with what is typed. -/
theorem exists_completions_eq (session : Session) : ∃ names : List String, ∀ start,
    session.completions start =
      names.filter fun name => (Text.lower start.toList).isPrefixOf (Text.lower name.toList) := by
  unfold completions
  cases session.cwdEntries with
  | error cause => exact ⟨[], fun _ => rfl⟩
  | ok inside => exact ⟨inside.names, fun _ => rfl⟩

theorem prefix_of_completions {start : String} (h : session.completions start = [name]) :
    Text.lower start.toList <+: Text.lower name.toList := by
  obtain ⟨names, hcompletions⟩ := session.exists_completions_eq
  have hmem : name ∈ session.completions start := h ▸ List.mem_cons_self
  rw [hcompletions] at hmem
  exact List.isPrefixOf_iff_prefix.1 (List.mem_filter.1 hmem).2

/-- What is typed may be made longer as long as the name starts with it. -/
theorem completions_narrowed {start word : String} (h : session.completions start = [name])
    (hstart : Text.lower start.toList <+: Text.lower word.toList)
    (hword : Text.lower word.toList <+: Text.lower name.toList) :
    session.completions word = [name] := by
  obtain ⟨names, hcompletions⟩ := session.exists_completions_eq
  rw [hcompletions] at h ⊢
  have hnarrow : ∀ other ∈ names,
      (Text.lower word.toList).isPrefixOf (Text.lower other.toList) =
        ((Text.lower word.toList).isPrefixOf (Text.lower other.toList) &&
          (Text.lower start.toList).isPrefixOf (Text.lower other.toList)) := by
    intro other _
    cases hother : (Text.lower word.toList).isPrefixOf (Text.lower other.toList) with
    | false => rfl
    | true =>
      rw [List.isPrefixOf_iff_prefix] at hother
      rw [List.isPrefixOf_iff_prefix.2 (hstart.trans hother), Bool.and_self]
  rw [List.filter_congr hnarrow, ← List.filter_filter, h]
  exact List.filter_cons_of_pos (List.isPrefixOf_iff_prefix.2 hword)

theorem lineWords_cd (name : String) : lineWords ("cd " ++ name) = "cd" :: lineWords name := by
  simp only [lineWords, String.toList_append]
  rfl

/-- **Completing is idempotent.** A line that has been completed, or left as it is, stays as it is, in
every session, whether its working directory is there or not, and whatever the names of the children are.
The session itself is only read. -/
theorem complete_complete (session : Session) (line : String) :
    session.complete (session.complete line) = session.complete line := by
  rcases session.complete_cases line with hsame | ⟨name, hname⟩
  · rw [hsame, hsame]
  · rw [hname.complete_eq]
    rcases session.complete_cases ("cd " ++ name) with hsame | ⟨other, hother⟩
    · exact hsame
    · -- the name is one word, since the completed line has two
      obtain ⟨first, start, hwords, -, hnames⟩ := hname
      have hagain := hother.complete_eq
      obtain ⟨_, word, hcompleted, -, hothers⟩ := hother
      rw [lineWords_cd] at hcompleted
      have hone : Text.words name.toList = [word.toList] := by
        obtain ⟨-, hname⟩ := List.cons_eq_cons.1 hcompleted
        obtain ⟨letters, hletters, hword⟩ := List.map_eq_singleton_iff.1 hname
        rw [hletters, ← hword, String.toList_ofList]
      have hstart : IsWord start :=
        isWord_of_mem_lineWords (hwords ▸ List.mem_cons_of_mem _ List.mem_cons_self)
      have hne : start.toList ≠ [] := fun hnil => hstart.1 (String.toList_inj.1 hnil)
      obtain ⟨hlonger, hword⟩ := Text.lower_prefix_of_words hne hstart.2
        (prefix_of_completions hnames) hone
      rw [completions_narrowed hnames hlonger hword] at hothers
      rw [hagain, List.singleton_inj.1 hothers]

end Session

/-! ### Running a completed line -/

/-- `cd` enters a child exactly if this is its operand and a directory, `..` apart. -/
theorem cd_eq_child_iff {tree : FileTree} {cwd : Path} {args : List String}
    (hcwd : tree.content? cwd = some .dir) :
    cd tree cwd args = (.ok "", cwd ++ [name]) ↔
      args.head? = some name ∧ name ≠ ".." ∧ tree.content? (cwd ++ [name]) = some .dir := by
  obtain ⟨inside, hinside⟩ := FileTree.directory_ok_iff_content?.2 hcwd
  rw [FileTree.content?_child hinside name]
  have hlength : ∀ path : Path, path.length ≤ cwd.length → path ≠ cwd ++ [name] := by
    rintro path hle rfl
    rw [List.length_append] at hle
    exact Nat.not_succ_le_self _ hle
  cases args with
  | nil => simp [cd]
  | cons target rest =>
    rw [List.head?_cons, Option.some_inj]
    by_cases hup : target = ".."
    · have hparent : cwd.dropLast ≠ cwd ++ [name] := hlength _ (by simp)
      simp only [cd, hup, if_true, Prod.mk.injEq, hparent, and_false, false_iff]
      exact fun h => h.2.1 h.1.symm
    · have hstay : cwd ≠ cwd ++ [name] := hlength _ (le_refl _)
      simp only [cd, hup, if_false, hinside]
      constructor
      · intro hcd
        split at hcd
        next stamps below hfind =>
          obtain rfl := List.singleton_inj.1 (List.append_cancel_left (Prod.mk.inj hcd).2)
          exact ⟨rfl, hup, by rw [hfind]; rfl⟩
        next => exact absurd (Prod.mk.inj hcd).2 hstay
      · rintro ⟨rfl, -, hdir⟩
        obtain ⟨child, hfind, hchild⟩ := Option.map_eq_some_iff.1 hdir
        cases child with
        | file stamps text => cases hchild
        | dir stamps below => rw [hfind]

namespace Session

/-- A line of `cd` and a name that is run in a settled session enters the child of this name, with nothing
to say about it, exactly if the child is a directory and the name a single word. -/
theorem run_completed_iff (hnamed : session.tree.WellNamed) (htable : session.table.Reached)
    (hsettled : session.Settled) (now : Nat) (name : String) :
    (session.run now ("cd " ++ name)).1 = [session.shown ("cd " ++ name)] ∧
        (session.run now ("cd " ++ name)).2.cwd = session.cwd ++ [name] ↔
      IsWord name ∧ session.tree.content? (session.cwd ++ [name]) = some .dir := by
  have hcommand : commandName ("cd " ++ name) = some Builtin.cd.name := by
    rw [commandName, lineWords_cd]
    rfl
  have hwords : (lineWords ("cd " ++ name)).tail = lineWords name := by
    rw [lineWords_cd, List.tail_cons]
  have hword : (lineWords name).head? = some name ↔ IsWord name :=
    ⟨fun h => isWord_of_mem_lineWords (List.mem_of_head? h),
      fun h => by rw [lineWords_of_isWord h, List.head?_cons]⟩
  have hup : session.tree.content? (session.cwd ++ [name]) = some .dir → name ≠ ".." := by
    intro hdir
    obtain ⟨node, hat, -⟩ := Option.map_eq_some_iff.1 hdir
    exact (Path.isName_iff.1 ((hnamed.of_at? hat).1 name (by simp))).2.2.1
  have hcd := @cd_eq_child_iff name _ _ (lineWords name) (settled_iff.1 hsettled)
  rw [hword] at hcd
  have henters : cd session.tree session.cwd (lineWords name) = (.ok "", session.cwd ++ [name]) ↔
      IsWord name ∧ session.tree.content? (session.cwd ++ [name]) = some .dir :=
    hcd.trans (and_congr_right' (and_iff_right_of_imp hup))
  have hsilent : ∀ outcome, putOut Builtin.cd.name outcome = "" ↔ outcome = .ok "" := by
    rintro (cause | output)
    · simp [putOut, Failure.output, Builtin.name]
    · simp [putOut]
  rw [← henters, run_of_find? hcommand (htable.find?_builtin .cd), hwords,
    Command.call_of_move rfl, Prod.ext_iff, ← hsilent]
  generalize cd session.tree session.cwd (lineWords name) = gone
  by_cases hempty : putOut Builtin.cd.name gone.1 = ""
  · simp [hempty, record, Builtin.command]
  · simp [hempty, Builtin.command]

/-- **Where a completed line leads.** A line that is changed by its completion in a settled session is
completed to a child. Running the completed line enters this child, with nothing to say about it,
exactly if it is a directory and its name a single word. -/
theorem run_complete (hnamed : session.tree.WellNamed) (htable : session.table.Reached)
    (hsettled : session.Settled) (hnew : session.complete line ≠ line) (now : Nat) :
    ∃ name, session.CompletesTo line name ∧ session.complete line = "cd " ++ name ∧
      ((session.run now (session.complete line)).1 = [session.shown (session.complete line)] ∧
          (session.run now (session.complete line)).2.cwd = session.cwd ++ [name] ↔
        session.tree.content? (session.cwd ++ [name]) = some .dir ∧ IsWord name) := by
  obtain ⟨name, hname⟩ := (session.complete_cases line).resolve_left hnew
  refine ⟨name, hname, hname.complete_eq, ?_⟩
  rw [hname.complete_eq, run_completed_iff hnamed htable hsettled now name, and_comm]

/-- The directory `Documents` is entered by a line that is completed to it. -/
theorem completed_directory_is_entered :
    let requests : List Request := [⟨1, "/", .mkdir "Documents" false false⟩]
    let session := start (FileTree.empty.afterRequests requests) Catalog.default "user" "host"
      ⟨2024, 1, 2, 3, 4, 5⟩
    session.complete "CD doc" = "cd Documents" ∧
      (session.run 2 (session.complete "CD doc")).2.cwd = ["Documents"] := by
  intro requests session
  have hempty : FileTree.empty.WellNamed := trivial
  have hcomplete : session.complete "CD doc" = "cd Documents" := by decide +kernel
  have hnew : session.complete "CD doc" ≠ "CD doc" := by
    rw [hcomplete]
    decide
  have hwell : session.tree.WellNamed := hempty.afterRequests requests
  have htable : session.table.Reached := table_start_reached _ _ _ _ _
  have hsettled : session.Settled := settled_start _ _ _ _ _
  obtain ⟨name, -, hname, henters⟩ := run_complete hwell htable hsettled hnew 2
  obtain rfl : "Documents" = name := by
    refine (String.append_right_inj "cd ").1 (Eq.trans ?_ (hcomplete.symm.trans hname))
    decide
  exact ⟨hcomplete, (henters.2 ⟨by decide +kernel, by decide⟩).2⟩

/-- The directory `my docs` is what a line is completed to, but `cd` reads `my` alone. -/
theorem blank_in_name_is_not_entered :
    let session := start ⟨.fresh 0, .dir "my docs" (.fresh 0) .nil .nil⟩ Catalog.default "user" "host"
      ⟨2024, 1, 2, 3, 4, 5⟩
    session.complete "cd my" = "cd my docs" ∧
      (session.run 0 "cd my docs").1 = ["~ $ cd my docs", "cd: my: No such directory"] ∧
      (session.run 0 "cd my docs").2.cwd = [] := by
  decide +kernel

end Session

end Shell

end Shellbox
