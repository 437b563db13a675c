import Shellbox.Proofs.Completion
import Shellbox.Proofs.PathReading
/-!
# Walking and reading a path

Going through the tree with one `cd` for each step ends where the steps, joined with slashes, lead as a
path. The two do it differently: `cd` goes up by dropping the end of the working directory, or looks one
name up among the children there, and reading a path folds its components over the working directory
without the tree (`Path.readFrom_joinWith`). Both go on by `Path.climb`, once for each step.

One `cd` is quiet exactly if it leads to a directory (`Session.run_cd`). So a walk is quiet exactly if all
the places on the way are directories (`Session.quiet_iff`), and then it ends where the path leads
(`Session.cwd_of_quiet`). Without `..` the places on the way lie above the last one, so that it is enough
if this is a directory. With `..` it is not: a walk may turn back from a place that is not there.
-/

namespace Shellbox

namespace Path

variable {steps : List String}

/-- The steps joined with slashes lead where they lead one by one. -/
theorem readFrom_joinWith (h : ∀ step ∈ steps, step ≠ "" ∧ step ≠ "." ∧ '/' ∉ step.toList)
    (base : Path) : readFrom base (Text.joinWith "/" steps) = steps.foldl climb base := by
  have hrelative : isAbsolute (Text.joinWith "/" steps) = false := by
    cases steps with
    | nil => rfl
    | cons first rest =>
      obtain ⟨hempty, -, hslash⟩ := h first List.mem_cons_self
      obtain ⟨c, more, hfirst⟩ : ∃ c more, first.toList = c :: more :=
        List.exists_cons_of_ne_nil (by simpa using hempty)
      have hc : c ≠ '/' := by
        rintro rfl
        exact hslash (hfirst ▸ List.mem_cons_self)
      cases rest <;> simp [isAbsolute, Text.joined, hfirst, hc]
  rw [readFrom, hrelative, if_neg Bool.false_ne_true, extend_eq_foldl_climb,
    AnchoredPath.components_joinWith h]

/-- Without `..` all steps lead down. -/
theorem foldl_climb_of_down (h : ∀ step ∈ steps, step ≠ "..") (base : Path) :
    steps.foldl climb base = base ++ steps := by
  induction steps generalizing base with
  | nil => exact (List.append_nil base).symm
  | cons step rest ih =>
    obtain ⟨hstep, hrest⟩ := List.forall_mem_cons.1 h
    rw [List.foldl_cons, climb, if_neg hstep, ih hrest, List.append_assoc, List.singleton_append]

end Path

namespace Shell

/-- A step of a walk: a word that can stand between the slashes of a path and is not `.`. It may be
`..`. -/
def IsStep (step : String) : Prop := IsWord step ∧ step ≠ "." ∧ '/' ∉ step.toList

instance (step : String) : Decidable (IsStep step) := inferInstanceAs (Decidable (_ ∧ _ ∧ _))

/-- From a directory `cd` leads to the place that a path of the one step means, if this is a directory,
and otherwise nowhere. -/
theorem cd_eq_climb {tree : FileTree} {cwd : Path} (hcwd : tree.content? cwd = some .dir)
    (step : String) :
    cd tree cwd [step] =
      if tree.content? (Path.climb cwd step) = some .dir then (.ok "", Path.climb cwd step)
      else (.ok ("cd: " ++ step ++ ": No such directory"), cwd) := by
  obtain ⟨inside, hinside⟩ := FileTree.directory_ok_iff_content?.2 hcwd
  by_cases hup : step = ".."
  · have hparent := FileTree.content?_dropLast hcwd
    simp [cd, Path.climb, hup, hparent]
  · have hchild := FileTree.content?_child hinside step
    simp only [cd, Path.climb, if_neg hup, hinside, hchild]
    cases inside.find? step with
    | none => rfl
    | some child => cases child <;> rfl

namespace Session

variable {session : Session} {step : String} {steps : List (Nat × String)}

/-- Whether lines that are run one after the other are each shown with nothing else to say. -/
def Quiet (session : Session) : List (Nat × String) → Prop
  | [] => True
  | (now, line) :: rest =>
    (session.run now line).1 = [session.shown line] ∧ (session.run now line).2.Quiet rest

instance decidableQuiet (session : Session) : (lines : List (Nat × String)) →
    Decidable (session.Quiet lines)
  | [] => isTrue trivial
  | (now, line) :: rest =>
    @instDecidableAnd _ _ _ ((session.run now line).2.decidableQuiet rest)

/-- The lines of a walk: one `cd` for each step, at the time of the step. -/
def cdLines (steps : List (Nat × String)) : List (Nat × String) :=
  steps.map fun step => (step.1, "cd " ++ step.2)

theorem cdLines_cons (now : Nat) (step : String) (steps : List (Nat × String)) :
    cdLines ((now, step) :: steps) = (now, "cd " ++ step) :: cdLines steps := rfl

/-- What one `cd` answers and does. -/
theorem run_cd (htable : session.table.Reached) (hsettled : session.Settled) (hstep : IsStep step)
    (now : Nat) :
    session.run now ("cd " ++ step) =
      let shown := session.shown ("cd " ++ step)
      if session.tree.content? (Path.climb session.cwd step) = some .dir then
        ([shown], { session with cwd := Path.climb session.cwd step }.record [shown])
      else
        let lines := [shown, "cd: " ++ step ++ ": No such directory"]
        (lines, session.record lines) := by
  have hwords : lineWords ("cd " ++ step) = Builtin.cd.name :: [step] := by
    rw [lineWords_cd, lineWords_of_isWord hstep.1]
    rfl
  rw [run_of_lineWords htable hwords (by decide), Command.call_of_move rfl,
    cd_eq_climb (settled_iff.1 hsettled)]
  split_ifs
  · simp [putOut]
  · simp [putOut]

/-- One `cd` is quiet exactly if it leads to a directory, and then it leads there. -/
theorem quiet_cdLines_cons_iff (htable : session.table.Reached) (hsettled : session.Settled)
    (hstep : IsStep step) (now : Nat) :
    session.Quiet (cdLines ((now, step) :: steps)) ↔
      session.tree.content? (Path.climb session.cwd step) = some .dir ∧
        Quiet ({ session with cwd := Path.climb session.cwd step }.record
          [session.shown ("cd " ++ step)]) (cdLines steps) := by
  rw [cdLines_cons, Quiet, run_cd htable hsettled hstep]
  dsimp only
  split_ifs with hdir
  · simp [hdir]
  · simp [hdir]

/-- **A walk is quiet exactly if it leads through directories alone.** -/
theorem quiet_iff (htable : session.table.Reached) (hsettled : session.Settled)
    (hsteps : ∀ step ∈ steps, IsStep step.2) :
    session.Quiet (cdLines steps) ↔
      ∀ front, front <+: steps.map Prod.snd →
        session.tree.content? (front.foldl Path.climb session.cwd) = some .dir := by
  induction steps generalizing session with
  | nil =>
    refine ⟨fun _ front hfront => ?_, fun _ => trivial⟩
    rw [List.prefix_nil.1 hfront]
    exact settled_iff.1 hsettled
  | cons first rest ih =>
    obtain ⟨now, step⟩ := first
    obtain ⟨hstep, hrest⟩ := List.forall_mem_cons.1 hsteps
    rw [quiet_cdLines_cons_iff htable hsettled hstep, List.map_cons, Path.forall_prefix_cons_iff]
    have hnext : session.tree.content? (Path.climb session.cwd step) = some .dir →
        (Quiet ({ session with cwd := Path.climb session.cwd step }.record
          [session.shown ("cd " ++ step)]) (cdLines rest) ↔ _) :=
      fun hdir => ih htable (settled_iff.2 hdir) hrest
    rw [and_congr_right hnext]
    constructor
    · exact fun h => ⟨settled_iff.1 hsettled, h.2⟩
    · exact fun h => ⟨h.2 [] List.nil_prefix, h.2⟩

/-- A quiet walk ends where its steps lead as a path. -/
theorem cwd_of_quiet (htable : session.table.Reached) (hsettled : session.Settled)
    (hsteps : ∀ step ∈ steps, IsStep step.2) (hquiet : session.Quiet (cdLines steps)) :
    (session.afterLines (cdLines steps)).cwd =
      (steps.map Prod.snd).foldl Path.climb session.cwd := by
  induction steps generalizing session with
  | nil => rfl
  | cons first rest ih =>
    obtain ⟨now, step⟩ := first
    obtain ⟨hstep, hrest⟩ := List.forall_mem_cons.1 hsteps
    obtain ⟨hdir, hquiet⟩ := (quiet_cdLines_cons_iff htable hsettled hstep now).1 hquiet
    rw [cdLines_cons, afterLines_cons, run_cd htable hsettled hstep, if_pos hdir]
    exact ih htable (settled_iff.2 hdir) hrest hquiet

/-- A walk leaves the tree as it is, quiet or not. -/
theorem tree_afterLines_cdLines (htable : session.table.Reached) :
    (session.afterLines (cdLines steps)).tree = session.tree := by
  induction steps generalizing session with
  | nil => rfl
  | cons first rest ih =>
    obtain ⟨now, step⟩ := first
    have hname : commandName ("cd " ++ step) = some "cd" := by
      rw [commandName, lineWords_cd]
      rfl
    have htree := (run_confined htable now ("cd " ++ step)).tree fun edit hedit => by
      rw [hname]
      revert edit
      decide
    rw [cdLines_cons, afterLines_cons, ih (table_run_reached htable now _), htree]

/-- **Walking agrees with reading a path.** In a session whose working directory is a directory, let there
be one `cd` for each of some steps. If none of them has anything to say, then the working directory at the
end is what the steps, joined with slashes, mean as a path from the working directory at the start, and it
is a directory. If no step is `..`, then none has anything to say exactly if that path leads to a
directory. -/
theorem walk_agrees (htable : session.table.Reached) (hsettled : session.Settled)
    (steps : List (Nat × String)) (hsteps : ∀ step ∈ steps, IsStep step.2) :
    let goal := session.locate (Text.joinWith "/" (steps.map Prod.snd))
    let after := session.afterLines (cdLines steps)
    (session.Quiet (cdLines steps) →
      after.cwd = goal ∧ after.tree = session.tree ∧ session.tree.hasDir goal = true) ∧
    ((∀ step ∈ steps, step.2 ≠ "..") →
      (session.Quiet (cdLines steps) ↔ session.tree.hasDir goal = true)) := by
  intro goal after
  have hgoal : goal = (steps.map Prod.snd).foldl Path.climb session.cwd :=
    Path.readFrom_joinWith (List.forall_mem_map.2 fun step hstep =>
      ⟨(hsteps step hstep).1.1, (hsteps step hstep).2⟩) session.cwd
  have hquiet := quiet_iff htable hsettled hsteps
  rw [FileTree.hasDir_iff, hgoal]
  refine ⟨fun h => ?_, fun hdown => ?_⟩
  · exact ⟨cwd_of_quiet htable hsettled hsteps h, tree_afterLines_cdLines htable,
      hquiet.1 h _ (List.prefix_refl _)⟩
  · have hdown : ∀ name ∈ steps.map Prod.snd, name ≠ ".." := List.forall_mem_map.2 hdown
    rw [hquiet, Path.foldl_climb_of_down hdown]
    constructor
    · intro hfronts
      have hdir := hfronts _ (List.prefix_refl _)
      rwa [Path.foldl_climb_of_down hdown] at hdir
    · -- what lies above a directory is one too
      rintro hdir front ⟨below, hfront⟩
      rw [← hfront] at hdir hdown
      rw [Path.foldl_climb_of_down fun name hname => hdown name (List.mem_append_left _ hname)]
      rw [← List.append_assoc] at hdir
      by_cases hlast : below = []
      · rwa [hlast, List.append_nil] at hdir
      · exact FileTree.content?_of_append hlast (by rw [hdir]; simp)

/-- A walk that goes down, up beyond the root and down again. -/
theorem walk_beyond_root :
    let requests : List Request := [⟨1, "/", .mkdir "a/b" true false⟩]
    let session := start (FileTree.empty.afterRequests requests) Catalog.default "user" "host"
      ⟨2024, 1, 2, 3, 4, 5⟩
    let steps := [(2, "a"), (3, ".."), (4, ".."), (5, "a"), (6, "b")]
    session.Quiet (cdLines steps) ∧
      (session.afterLines (cdLines steps)).cwd = session.locate "a/../../a/b" ∧
        (session.Quiet (cdLines [(2, "a"), (3, "c")]) ↔ session.tree.hasDir ["a", "c"] = true) := by
  intro requests session steps
  have htable : session.table.Reached := table_start_reached _ _ _ _ _
  have hsettled : session.Settled := settled_start _ _ _ _ _
  have hquiet : session.Quiet (cdLines steps) := by decide +kernel
  obtain ⟨hcwd, -, -⟩ := (walk_agrees htable hsettled steps (by decide)).1 hquiet
  have hdown := (walk_agrees htable hsettled [(2, "a"), (3, "c")] (by decide)).2 (by decide)
  exact ⟨hquiet, hcwd, hdown⟩

/-- A path may turn back from a place that is not there, and a walk may not. -/
example :
    let session := start FileTree.empty Catalog.default "user" "host" ⟨2024, 1, 2, 3, 4, 5⟩
    session.tree.hasDir (session.locate "a/..") = true ∧
      ¬session.Quiet (cdLines [(1, "a"), (2, "..")]) := by decide +kernel

end Session
end Shell
end Shellbox
