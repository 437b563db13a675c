import Shellbox.Proofs.Atomicity
import Shellbox.Proofs.Listings
import Shellbox.Proofs.TreePaths
/-!
# What is there after something was made

Writing a file, touching one and making a directory all begin in the same way: the directory above
the path is opened, and made where that is allowed. They differ in what they accept at the path and
in what they leave there. `FileTree.Creates` is the common description, with these as its parameters:
when such an edit succeeds, with which fault it fails, and what the tree holds when it is done.

The outcome of each edit is that of the opening, and behind it one question about the path itself
(`Edit.outcome_ensureFile_append`, `Edit.outcome_mkdir_append`). What the tree holds afterwards is one
equation for all paths, from which `FileTree.gains_of_content?` reads off what was gained: whatever
had to be made above the path holds one child, since nothing was there before.
-/

namespace Shellbox

namespace FileTree

/-- Something can be made at the path: it is not the root, no file stands above it, and the directory
above it is there or may be made. -/
structure OpenTo (tree : FileTree) (parents : Bool) (path : Path) : Prop where
  /-- The path is not the root. -/
  named : path ≠ []
  /-- Nothing above the path is a file. -/
  clear : ∀ front, front <+: path.dropLast → ∀ text, tree.content? front ≠ some (.file text)
  /-- The directory above the path is there or may be made. -/
  parent : tree.content? path.dropLast ≠ none ∨ parents = true

/-- The tree `after` is the tree `before` with something held at a path, and with the directories that
were missing above it. -/
structure Gains (before after : FileTree) (path : Path) (held : Content) : Prop where
  /-- The path holds what it is to hold. -/
  place : after.content? path = some held
  /-- What was missing above the path is a directory that holds the next name of the path alone. -/
  filled : ∀ front name, front ++ [name] <+: path → before.content? front = none →
    after.content? front = some .dir ∧ after.listed? front = some [name]
  /-- Every other path holds what it held. -/
  kept : ∀ other, other ≠ path → ¬(other <+: path ∧ before.content? other = none) →
    after.content? other = before.content? other

/-- How an edit ends that is to leave `held` at a path, if what is there `fits`, and otherwise ends
with `refusal`. -/
structure Creates (tree : FileTree) (edit : Edit (List Path)) (parents : Bool) (path : Path)
    (fits : Option Content → Prop) (refusal : Fault) (held : Content) : Prop where
  /-- It succeeds exactly if something can be made at the path and what is there fits, and answers with
  the path. -/
  succeeds_iff : ∀ made, edit.outcome tree = .ok made ↔
    made = [path] ∧ tree.OpenTo parents path ∧ fits (tree.content? path)
  /-- It fails with the first obstacle on the way from the root, the path itself coming last. -/
  fails_iff : ∀ fault, edit.outcome tree = .error fault ↔
    path = [] ∧ fault = .rootAsTarget ∨
      path ≠ [] ∧ (tree.Obstacle parents path.dropLast fault ∨
        ¬fits (tree.content? path) ∧ fault = refusal)
  /-- When it succeeds, the tree gains what the path is to hold. -/
  gains : edit.outcome tree = .ok [path] → tree.Gains (edit.after tree) path held

variable {tree before after : FileTree} {path : Path} {held : Content}

/-- What a tree has gained, read off what all its paths hold. -/
theorem gains_of_content? (hwell : after.WellNamed)
    (hcontent : ∀ other, after.content? other =
      if other = path then some held
      else (before.content? other).or (if other <+: path then some .dir else none)) :
    before.Gains after path held where
  place := by rw [hcontent, if_pos rfl]
  filled front name hway hmissing := by
    have hfront : front <+: path := (List.prefix_append front [name]).trans hway
    have hne : front ≠ path := by
      rintro rfl
      have hlength := hway.length_le
      rw [List.length_append, List.length_singleton] at hlength
      omega
    have hdir : after.content? front = some .dir := by
      rw [hcontent, if_neg hne, hmissing, if_pos hfront]
      rfl
    refine ⟨hdir, ?_⟩
    obtain ⟨names, hnames⟩ := exists_listed?_iff.2 hdir
    -- below a path that held nothing, only the path itself and what is above it hold something
    have hmem : ∀ child, child ∈ names ↔ child = name := by
      intro child
      have hnothing : before.content? (front ++ [child]) = none :=
        content?_eq_none_of_prefix hmissing (List.prefix_append front [child])
      have hheld : after.content? (front ++ [child]) ≠ none ↔ front ++ [child] <+: path := by
        rw [hcontent, hnothing]
        by_cases hchild : front ++ [child] = path
        · simp [hchild]
        · by_cases hbelow : front ++ [child] <+: path <;> simp [hchild, hbelow]
      rw [mem_listed_iff hnames, hheld]
      constructor
      · intro hchild
        have hsame : front ++ [child] = front ++ [name] :=
          (List.prefix_of_prefix_length_le hchild hway (by simp)).eq_of_length (by simp)
        simpa using hsame
      · rintro rfl
        exact hway
    have hperm : names.Perm [name] :=
      (List.perm_ext_iff_of_nodup (hwell.nodup_of_listed? hnames) (List.nodup_singleton name)).2
        fun child => by rw [hmem, List.mem_singleton]
    rw [hnames, List.perm_singleton.1 hperm]
  kept other hother hold := by
    rw [hcontent, if_neg hother]
    by_cases hway : other <+: path
    · cases hheld : before.content? other with
      | none => exact absurd ⟨hway, hheld⟩ hold
      | some found => rfl
    · rw [if_neg hway, Option.or_none]

/-- Something can be made under a name exactly if the directory above it can be opened. -/
theorem openTo_append_iff {now : Nat} {parents : Bool} {parent : Path} {name : String} :
    tree.OpenTo parents (parent ++ [name]) ↔
      ∃ inside, (Edit.openDir now parents parent).outcome tree = .ok inside := by
  have hparent : (parent ++ [name]).dropLast = parent := List.dropLast_concat
  rw [Edit.exists_outcome_openDir_iff]
  constructor
  · rintro ⟨-, hclear, hmade⟩
    rw [hparent] at hclear hmade
    exact ⟨hclear, hmade⟩
  · rintro ⟨hclear, hmade⟩
    exact ⟨List.concat_ne_nil name parent, by rwa [hparent], by rwa [hparent]⟩

/-- Below a directory that cannot be opened there is nothing: what is there has directories above it,
and these can be opened. -/
theorem content?_eq_none_of_not_openTo {parents : Bool} {parent : Path} {name : String}
    (h : ¬tree.OpenTo parents (parent ++ [name])) : tree.content? (parent ++ [name]) = none := by
  by_contra hheld
  have hdir := content?_of_append (List.cons_ne_nil name []) hheld
  refine h ((@openTo_append_iff tree 0 parents parent name).2 ?_)
  refine Edit.exists_outcome_openDir_iff.2 ⟨fun front hfront => ?_, Or.inl (by simp [hdir])⟩
  exact content?_ne_file_of_prefix hdir hfront

/-- How an edit ends whose outcome is that of opening the directory above its path, and behind it
whether what is at the path fits. -/
theorem creates_of_outcome {edit : Edit Path} (now : Nat) {parents : Bool}
    {fits : Option Content → Prop} [DecidablePred fits] {refusal : Fault} (hfree : fits none)
    (hroot : path = [] → edit.outcome tree = .error .rootAsTarget)
    (hnamed : ∀ parent name, path = parent ++ [name] → edit.outcome tree =
      match (Edit.openDir now parents parent).outcome tree with
      | .error fault => .error fault
      | .ok _ => if fits (tree.content? path) then .ok path else .error refusal)
    (hgains : edit.outcome tree = .ok path → tree.Gains (edit.after tree) path held) :
    tree.Creates (do return [← edit]) parents path fits refusal held := by
  rw [bind_pure_comp]
  rcases List.eq_nil_or_concat' path with rfl | ⟨parent, name, rfl⟩
  · have houtcome := hroot rfl
    exact {
      succeeds_iff := fun made =>
        ⟨fun h => by simp [houtcome, Except.map] at h, fun h => absurd rfl h.2.1.named⟩
      fails_iff := fun fault => by simp [houtcome, Except.map, eq_comm]
      gains := fun h => by simp [houtcome, Except.map] at h }
  have houtcome := hnamed parent name rfl
  have hopens := @openTo_append_iff tree now parents parent name
  have hobstacle := @Edit.outcome_openDir_eq_error_iff now parents parent tree
  cases hopen : (Edit.openDir now parents parent).outcome tree with
  | error cause =>
    have hclosed : ¬tree.OpenTo parents (parent ++ [name]) := by
      rw [hopens, hopen]
      rintro ⟨inside, hinside⟩
      cases hinside
    have hnothing := content?_eq_none_of_not_openTo hclosed
    rw [hopen] at houtcome hobstacle
    exact {
      succeeds_iff := fun made => by simp [houtcome, Except.map, hclosed]
      fails_iff := fun fault => by simp [houtcome, Except.map, ← hobstacle, hnothing, hfree]
      gains := fun h => by simp [houtcome, Except.map] at h }
  | ok inside =>
    have hopenTo := hopens.2 ⟨inside, hopen⟩
    rw [hopen] at houtcome hobstacle
    by_cases hfits : fits (tree.content? (parent ++ [name]))
    · rw [if_pos hfits] at houtcome
      exact {
        succeeds_iff := fun made => by
          simp [houtcome, Except.map, hopenTo, hfits, eq_comm (a := made)]
        fails_iff := fun fault => by simp [houtcome, Except.map, ← hobstacle, hfits]
        gains := fun _ => by rw [Edit.after_map]; exact hgains houtcome }
    · rw [if_neg hfits] at houtcome
      exact {
        succeeds_iff := fun made => by simp [houtcome, Except.map, hfits]
        fails_iff := fun fault => by
          simp [houtcome, Except.map, ← hobstacle, hfits, eq_comm (a := refusal)]
        gains := fun h => by simp [houtcome, Except.map] at h }

end FileTree

namespace Edit

variable {now : Nat} {parents : Bool} {parent path : Path} {name : String} {tree : FileTree}

/-! ### Making a directory -/

/-- A directory that may not be there yet is made in the directory above it. -/
theorem mkdir_append :
    mkdir now (parent ++ [name]) parents false =
      openDir now parents parent >>= fun _ => create now parent name "dir" := by
  unfold mkdir
  rw [openParent_append]
  simp only [Bool.false_and, bind_assoc, pure_bind]
  rfl

/-- When the directory of a path is open, everything that is at the path is in the way of a new
directory. -/
theorem outcome_mkdir_append (hname : isName name) :
    (mkdir now (parent ++ [name]) parents false).outcome tree =
      match (openDir now parents parent).outcome tree with
      | .error fault => .error fault
      | .ok _ =>
        if tree.content? (parent ++ [name]) = none then .ok (parent ++ [name])
        else .error (.occupied (parent ++ [name])) := by
  rw [mkdir_append, outcome_bind]
  cases hopen : (openDir now parents parent).outcome tree with
  | error fault => rfl
  | ok inside =>
    simp only
    rw [content?_of_openDir hopen]
    cases hfound : inside.find? name with
    | none => simp [outcome_create_after_openDir hname hopen hfound]
    | some child =>
      unfold create
      simp [hname, outcome_bind, directory_after_openDir hopen, hfound]

/-- The answer is the path. -/
theorem eq_of_outcome_mkdir {made : Path} (hname : isName name)
    (h : (mkdir now (parent ++ [name]) parents false).outcome tree = .ok made) :
    made = parent ++ [name] := by
  rw [outcome_mkdir_append hname] at h
  cases hopen : (openDir now parents parent).outcome tree with
  | error fault => rw [hopen] at h; cases h
  | ok inside =>
    rw [hopen] at h
    dsimp only at h
    split_ifs at h
    exact (Except.ok.inj h).symm

/-- A directory that could be made was opened for, and its name was free. -/
theorem opened_of_mkdir (hname : isName name)
    (h : (mkdir now (parent ++ [name]) parents false).outcome tree = .ok (parent ++ [name])) :
    ∃ inside, (openDir now parents parent).outcome tree = .ok inside ∧ inside.find? name = none := by
  rw [outcome_mkdir_append hname] at h
  cases hopen : (openDir now parents parent).outcome tree with
  | error fault => rw [hopen] at h; cases h
  | ok inside =>
    rw [hopen] at h
    have hnone : tree.content? (parent ++ [name]) = none := by
      by_contra hheld
      simp [hheld] at h
    rw [content?_of_openDir hopen, Option.map_eq_none_iff] at hnone
    exact ⟨inside, rfl, hnone⟩

/-- Where a directory could be made there was nothing. -/
theorem content?_of_mkdir (hname : isName name)
    (h : (mkdir now (parent ++ [name]) parents false).outcome tree = .ok (parent ++ [name])) :
    tree.content? (parent ++ [name]) = none := by
  obtain ⟨inside, hopen, hfree⟩ := opened_of_mkdir hname h
  rw [content?_of_openDir hopen, hfree]
  rfl

/-- A directory that could be made was added to the one that was opened for it. -/
theorem after_mkdir_of_ok (hname : isName name)
    (h : (mkdir now (parent ++ [name]) parents false).outcome tree = .ok (parent ++ [name])) :
    (mkdir now (parent ++ [name]) parents false).after tree =
      (addChild now parent name (.dir (.fresh now) .nil)).after
        ((openDir now parents parent).after tree) := by
  obtain ⟨inside, hopen, hfree⟩ := opened_of_mkdir hname h
  rw [mkdir_append, after_bind, hopen]
  unfold create
  simp [hname, after_bind, directory_after_openDir hopen, hfree]

/-- After a directory was made, the path and its missing prefixes hold a directory, and all else is as
before. -/
theorem content?_after_mkdir (hname : isName name)
    (h : (mkdir now (parent ++ [name]) parents false).outcome tree = .ok (parent ++ [name]))
    (other : Path) :
    ((mkdir now (parent ++ [name]) parents false).after tree).content? other =
      if other = parent ++ [name] then some .dir
      else (tree.content? other).or (if other <+: parent ++ [name] then some .dir else none) := by
  obtain ⟨inside, hopen, hfree⟩ := opened_of_mkdir hname h
  rw [after_mkdir_of_ok hname h, content?_after_addLeaf hopen hfree fun _ _ => rfl]
  by_cases hother : other = parent ++ [name]
  · subst hother
    simp [content?_of_mkdir hname h, Node.content]
  · simp only [if_neg hother]

/-- `mkdir` fails at the root, at the first obstacle above its path, or at what is there already. -/
theorem outcome_mkdir_eq_error_iff {fault : Fault} (hpath : ∀ name ∈ path, isName name) :
    (mkdir now path parents false).outcome tree = .error fault ↔
      path = [] ∧ fault = .rootAsTarget ∨
        path ≠ [] ∧ (tree.Obstacle parents path.dropLast fault ∨
          tree.content? path ≠ none ∧ fault = .occupied path) := by
  rcases List.eq_nil_or_concat' path with rfl | ⟨parent, name, rfl⟩
  · have hroot : (mkdir now [] parents false).outcome tree = .error .rootAsTarget := rfl
    simp [hroot, eq_comm]
  · have hobstacle := @outcome_openDir_eq_error_iff now parents parent tree
    rw [outcome_mkdir_append (hpath name List.mem_concat_self), List.dropLast_concat, ← hobstacle]
    cases hopen : (openDir now parents parent).outcome tree with
    | error cause =>
      have hclosed : ¬tree.OpenTo parents (parent ++ [name]) := by
        rw [@FileTree.openTo_append_iff tree now, hopen]
        rintro ⟨inside, hinside⟩
        cases hinside
      simp [FileTree.content?_eq_none_of_not_openTo hclosed]
    | ok inside =>
      by_cases hheld : tree.content? (parent ++ [name]) = none
      · simp [hheld]
      · simp [hheld, eq_comm (a := fault)]

/-- If a directory that is there will do, it is left alone; otherwise it makes no difference. -/
theorem mkdir_existOk (now : Nat) (path : Path) (parents : Bool) (tree : FileTree) :
    ((mkdir now path parents true).outcome tree, (mkdir now path parents true).after tree) =
      if tree.content? path = some .dir then (.ok path, tree)
      else ((mkdir now path parents false).outcome tree, (mkdir now path parents false).after tree) := by
  have hthere := @FileTree.hasDir_iff tree path
  unfold mkdir
  simp only [outcome_bind, after_bind, outcome_get, after_get, Bool.true_and, Bool.false_and]
  by_cases hdir : tree.content? path = some .dir
  · rw [if_pos hdir, if_pos (hthere.2 hdir)]
    rfl
  · rw [if_neg hdir, if_neg (mt hthere.1 hdir)]
    rfl

end Edit

/-! ### The three operations -/

namespace FileTree

variable {now : Nat} {parents : Bool} {path : Path} {text : String} {held : Content}
  {tree : FileTree}

/-- How an edit ends that sees to a file and then goes on with what cannot fail. -/
theorem creates_of_ensureFile {edit : Edit Path}
    (houtcome : edit.outcome tree =
      ((Edit.ensureFile now parents path).outcome tree).map fun _ => path)
    (hgains : edit.outcome tree = .ok path → tree.Gains (edit.after tree) path held) :
    tree.Creates (do return [← edit]) parents path (· ≠ some .dir) (.isADirectory path) held := by
  refine creates_of_outcome now (by simp) ?_ ?_ hgains
  · rintro rfl
    rw [houtcome, Edit.ensureFile_nil]
    rfl
  · rintro parent name rfl
    rw [houtcome, Edit.outcome_ensureFile_append]
    cases (Edit.openDir now parents parent).outcome tree with
    | error fault => rfl
    | ok inside => dsimp only; split_ifs <;> rfl

namespace WellNamed

theorem creates_writeFile (h : tree.WellNamed) (hpath : ∀ name ∈ path, Edit.isName name) :
    tree.Creates (do return [← Edit.writeFile now path text parents]) parents path (· ≠ some .dir)
      (.isADirectory path) (.file text) :=
  creates_of_ensureFile Edit.outcome_writeFile fun hok =>
    gains_of_content? (Edit.preserves_writeFile hpath tree h) (Edit.content?_after_writeFile hok)

theorem creates_touch (h : tree.WellNamed) (hpath : ∀ name ∈ path, Edit.isName name) :
    tree.Creates (do return [← Edit.touch now path]) false path (· ≠ some .dir)
      (.isADirectory path) ((tree.content? path).getD (.file "")) :=
  creates_of_ensureFile Edit.outcome_touch fun hok =>
    gains_of_content? (Edit.preserves_touch hpath tree h) (Edit.content?_after_touch hok)

theorem creates_mkdir (h : tree.WellNamed) (hpath : ∀ name ∈ path, Edit.isName name) :
    tree.Creates (do return [← Edit.mkdir now path parents false]) parents path (· = none)
      (.occupied path) .dir := by
  have hnames : ∀ parent name, path = parent ++ [name] → Edit.isName name := by
    rintro parent name rfl
    exact hpath name (by simp)
  refine creates_of_outcome now rfl ?_ ?_ fun hok => ?_
  · rintro rfl
    rfl
  · rintro parent name rfl
    exact Edit.outcome_mkdir_append (hnames parent name rfl)
  · rcases List.eq_nil_or_concat' path with rfl | ⟨parent, name, rfl⟩
    · cases hok
    · exact gains_of_content? (Edit.preserves_mkdir hpath tree h)
        (Edit.content?_after_mkdir (hnames parent name rfl) hok)

end WellNamed

end FileTree

namespace Operation

/-- **What the creating operations make, and why they fail.** In a tree that requests have made, writing
a file, touching one and making a directory succeed exactly if their path is not the root, no file
stands above it, the directory above it is there or is to be made as well, and what is at the path
fits: no directory for a file, nothing at all for a new directory. The path then holds the text, the
old text or an empty one, or a directory; each directory that was missing above it holds the next name
of the path alone, and all other paths hold what they held. Otherwise the fault is that of the first
obstacle on the way from the root. A `mkdir` to which a directory that is there will do leaves it alone,
and is no different otherwise. -/
theorem creates_at_path (requests : List Request) (now : Nat) (cwd path text : String)
    (parents : Bool) :
    let tree := FileTree.empty.afterRequests requests
    let place := Path.read cwd path
    tree.Creates ((writeFile path text parents).perform now cwd) parents place (· ≠ some .dir)
        (.isADirectory place) (.file text) ∧
      tree.Creates ((touch path).perform now cwd) false place (· ≠ some .dir)
        (.isADirectory place) ((tree.content? place).getD (.file "")) ∧
      tree.Creates ((mkdir path parents false).perform now cwd) parents place (· = none)
        (.occupied place) .dir ∧
      (((mkdir path parents true).perform now cwd).outcome tree,
          ((mkdir path parents true).perform now cwd).after tree) =
        if tree.content? place = some .dir then (.ok [place], tree)
        else (((mkdir path parents false).perform now cwd).outcome tree,
          ((mkdir path parents false).perform now cwd).after tree) := by
  intro tree place
  have hempty : FileTree.empty.WellNamed := trivial
  have hwell : tree.WellNamed := hempty.afterRequests requests
  have hplace := Path.isName_of_mem_read cwd (some path)
  refine ⟨hwell.creates_writeFile hplace, hwell.creates_touch hplace, hwell.creates_mkdir hplace, ?_⟩
  have hexistOk := Edit.mkdir_existOk now place parents tree
  simp only [perform, bind_pure_comp, Edit.outcome_map, Edit.after_map]
  split_ifs at hexistOk ⊢ with hdir
  · obtain ⟨houtcome, hafter⟩ := Prod.mk.inj hexistOk
    rw [houtcome, hafter]
    rfl
  · obtain ⟨houtcome, hafter⟩ := Prod.mk.inj hexistOk
    rw [houtcome, hafter]

/-- A file two directories down, one of them missing: touching does not make it, writing may, and the
directory that is there cannot be made again. -/
example :
    let tree := FileTree.empty.afterRequests [⟨1, "/", .mkdir "a" false false⟩]
    ((touch "a/b/c").perform 2 "/").outcome tree = .error (.missing ["a", "b"]) ∧
      ((writeFile "b/c" "text" true).perform 2 "/a").outcome tree = .ok [["a", "b", "c"]] ∧
      ((mkdir "../a" true false).perform 2 "/a").outcome tree = .error (.occupied ["a"]) := by
  decide +kernel

end Operation

end Shellbox
