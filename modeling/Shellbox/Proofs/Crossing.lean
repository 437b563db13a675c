import Mathlib.Tactic.ByContra
import Shellbox.Proofs.Writing
/-!
# Writing one file after another

Each file of a batch is written into the tree that the ones before it left. A file that is there
stays a file, and a directory stays a directory (`FileTree.KeepsKinds`), so what stands in the way
of a file once stands in its way for good.

Two paths cross if one is a proper part of the way to the other one. A path stays writable while
files are written at paths that it does not cross (`writable_after_writeFile`), so a batch of
writable paths is written to its end if no two of them cross, and only then
(`exists_outcome_writeAll`, `not_crossed_of_outcome_writeAll`). When it is not, a path that held
nothing before holds something now (`exists_new_of_writeAll`).
-/

namespace Shellbox

/-- Every directory of the first tree is a directory of the second one, and every file a file. -/
def FileTree.KeepsKinds (before after : FileTree) : Prop :=
  ∀ path, (before.content? path = some .dir → after.content? path = some .dir) ∧
    ∀ text, before.content? path = some (.file text) →
      ∃ text', after.content? path = some (.file text')

namespace FileTree.KeepsKinds

variable {first second third : FileTree} {path : Path}

theorem refl (tree : FileTree) : KeepsKinds tree tree := fun _ => ⟨id, fun text h => ⟨text, h⟩⟩

theorem trans (h : KeepsKinds first second) (h' : KeepsKinds second third) :
    KeepsKinds first third := by
  refine fun path => ⟨fun hdir => (h' path).1 ((h path).1 hdir), fun text hfile => ?_⟩
  obtain ⟨text', hfile'⟩ := (h path).2 text hfile
  exact (h' path).2 text' hfile'

/-- Nothing that is there gets lost. -/
theorem content?_eq_none (h : KeepsKinds first second) (hnone : second.content? path = none) :
    first.content? path = none := by
  cases hpath : first.content? path with
  | none => rfl
  | some held =>
    cases held with
    | dir => rw [(h path).1 hpath] at hnone; cases hnone
    | file text =>
      obtain ⟨text', hfile⟩ := (h path).2 text hpath
      rw [hfile] at hnone
      cases hnone

end FileTree.KeepsKinds

namespace Edit

variable {now : Nat} {path other : Path} {text : String} {files : List (Path × String)}
  {tree : FileTree}

/-! ### One file -/

/-- With missing directories to be made, a file is written exactly at a writable path. -/
theorem outcome_writeFile_iff_writable :
    (writeFile now path text true).outcome tree = .ok path ↔ tree.Writable path := by
  rw [outcome_writeFile_eq_ok_iff, outcome_ensureFile_eq_ok_iff]

theorem outcome_writeFile_of_not_writable (now : Nat) (text : String) (h : ¬tree.Writable path) :
    ∃ fault, (writeFile now path text true).outcome tree = .error fault := by
  cases hwrite : (writeFile now path text true).outcome tree with
  | error fault => exact ⟨fault, rfl⟩
  | ok written =>
    rw [outcome_writeFile] at hwrite
    cases hfile : (ensureFile now true path).outcome tree with
    | error fault => rw [hfile] at hwrite; cases hwrite
    | ok value => exact absurd (outcome_ensureFile_eq_ok_iff.1 hfile) h

/-- What every path holds after a file was written at a writable path. -/
theorem content?_of_writable (now : Nat) (text : String) (h : tree.Writable path) (other : Path) :
    ((writeFile now path text true).after tree).content? other =
      if other = path then some (.file text)
      else (tree.content? other).or (if other <+: path then some .dir else none) :=
  content?_after_writeFile (outcome_writeFile_iff_writable.2 h) other

theorem keepsKinds_writeFile (now : Nat) (path : Path) (text : String) (tree : FileTree) :
    tree.KeepsKinds ((writeFile now path text true).after tree) := by
  by_cases h : tree.Writable path
  · intro other
    rw [content?_of_writable now text h]
    by_cases hother : other = path
    · subst hother
      exact ⟨fun hdir => absurd hdir h.1, fun _ _ => ⟨text, if_pos rfl⟩⟩
    · rw [if_neg hother]
      exact ⟨fun hdir => by rw [hdir]; rfl, fun old hold => ⟨old, by rw [hold]; rfl⟩⟩
  · obtain ⟨fault, hfault⟩ := outcome_writeFile_of_not_writable now text h
    rw [Atomic.writeFile tree fault hfault]
    exact .refl tree

/-- One of two paths is a proper part of the way to the other one. -/
def Crosses (first second : Path) : Prop :=
  first ≠ second ∧ (first <+: second ∨ second <+: first)

/-- A path stays writable when a file is written at another one that it does not cross. -/
theorem writable_after_writeFile (h : tree.Writable path) (hother : tree.Writable other)
    (hcross : ¬Crosses path other) :
    ((writeFile now path text true).after tree).Writable other := by
  have hcontent := content?_of_writable now text h
  constructor
  · rw [hcontent]
    by_cases heq : other = path
    · rw [if_pos heq]
      simp
    · have hway : ¬other <+: path := fun hway => hcross ⟨Ne.symm heq, .inr hway⟩
      rw [if_neg heq, if_neg hway, Option.or_none]
      exact hother.1
  · intro front hfront old hold
    rw [hcontent] at hold
    by_cases heq : front = path
    · subst heq
      by_contra hne
      exact hcross ⟨hne, .inl hfront⟩
    · rw [if_neg heq] at hold
      refine hother.2 front hfront old ?_
      cases hbefore : tree.content? front with
      | some held => rw [hbefore] at hold; exact hold
      | none =>
        rw [hbefore] at hold
        split at hold <;> cases hold

/-- Of two writable paths that cross, the upper one holds nothing, and it holds something as soon
as a file is written at either of them. -/
theorem exists_new_of_crosses (h : tree.Writable path) (hother : tree.Writable other)
    (hcross : Crosses path other) :
    ∃ front, tree.content? front = none ∧
      ((writeFile now path text true).after tree).content? front ≠ none := by
  have hcontent := content?_of_writable now text h
  have hnone : ∀ {upper lower}, tree.Writable upper → tree.Writable lower → upper ≠ lower →
      upper <+: lower → tree.content? upper = none := by
    intro upper lower hupper hlower hne hway
    cases hheld : tree.content? upper with
    | none => rfl
    | some held =>
      cases held with
      | dir => exact absurd hheld hupper.1
      | file old => exact absurd (hlower.2 upper hway old hheld) hne
  obtain ⟨hne, hway | hway⟩ := hcross
  · exact ⟨path, hnone h hother hne hway, by rw [hcontent, if_pos rfl]; simp⟩
  · refine ⟨other, hnone hother h (Ne.symm hne) hway, ?_⟩
    rw [hcontent, if_neg (Ne.symm hne), if_pos hway]
    simp

/-! ### A batch of files -/

/-- Writes files one after the other. -/
def writeAll (now : Nat) : List (Path × String) → Edit (List Path)
  | [] => return []
  | (path, text) :: files => do
    let written ← writeFile now path text true
    return written :: (← writeAll now files)

/-- One path of the batch is a proper part of the way to another one. -/
def Crossed (files : List (Path × String)) : Prop :=
  ∃ first ∈ files, ∃ second ∈ files, first.1 ≠ second.1 ∧ first.1 <+: second.1

theorem Crossed.cons (entry : Path × String) (h : Crossed files) : Crossed (entry :: files) := by
  obtain ⟨first, hfirst, second, hsecond, hcross⟩ := h
  exact ⟨first, List.mem_cons_of_mem entry hfirst, second, List.mem_cons_of_mem entry hsecond, hcross⟩

theorem not_crosses_of_not_crossed (h : ¬Crossed files) {first second : Path × String}
    (hfirst : first ∈ files) (hsecond : second ∈ files) : ¬Crosses first.1 second.1 := by
  rintro ⟨hne, hway | hway⟩
  · exact h ⟨first, hfirst, second, hsecond, hne, hway⟩
  · exact h ⟨second, hsecond, first, hfirst, Ne.symm hne, hway⟩

/-- The first file of a batch is written into the tree as it is, the others into what it leaves. -/
theorem exists_outcome_writeAll_cons_iff :
    (∃ written, (writeAll now ((path, text) :: files)).outcome tree = .ok written) ↔
      tree.Writable path ∧
        ∃ written, (writeAll now files).outcome ((writeFile now path text true).after tree) =
          .ok written := by
  rw [writeAll, outcome_bind]
  by_cases h : tree.Writable path
  · rw [outcome_writeFile_iff_writable.2 h]
    simp only [bind_pure_comp, outcome_map, h, true_and]
    cases (writeAll now files).outcome ((writeFile now path text true).after tree) <;>
      simp [Except.map]
  · obtain ⟨fault, hfault⟩ := outcome_writeFile_of_not_writable now text h
    rw [hfault]
    simp [h]

theorem after_writeAll_cons (h : tree.Writable path) :
    (writeAll now ((path, text) :: files)).after tree =
      (writeAll now files).after ((writeFile now path text true).after tree) := by
  rw [writeAll, after_bind, outcome_writeFile_iff_writable.2 h]
  simp only [bind_pure_comp, after_map]

theorem keepsKinds_writeAll (now : Nat) (files : List (Path × String)) (tree : FileTree) :
    tree.KeepsKinds ((writeAll now files).after tree) := by
  induction files generalizing tree with
  | nil => exact .refl tree
  | cons entry files ih =>
    have hfirst := keepsKinds_writeFile now entry.1 entry.2 tree
    by_cases h : tree.Writable entry.1
    · rw [after_writeAll_cons h]
      exact hfirst.trans (ih _)
    · obtain ⟨fault, hfault⟩ := outcome_writeFile_of_not_writable now entry.2 h
      rw [writeAll, after_bind, hfault]
      exact hfirst

/-- Paths that are writable and do not cross are all written. -/
theorem exists_outcome_writeAll (hwritable : ∀ entry ∈ files, tree.Writable entry.1)
    (hcross : ¬Crossed files) : ∃ written, (writeAll now files).outcome tree = .ok written := by
  induction files generalizing tree with
  | nil => exact ⟨[], rfl⟩
  | cons entry files ih =>
    obtain ⟨hentry, hfiles⟩ := List.forall_mem_cons.1 hwritable
    refine exists_outcome_writeAll_cons_iff.2 ⟨hentry, ?_⟩
    refine ih (fun other hother => ?_) fun h => hcross (h.cons entry)
    exact writable_after_writeFile hentry (hfiles other hother)
      (not_crosses_of_not_crossed hcross List.mem_cons_self (List.mem_cons_of_mem entry hother))

/-- When all files of a batch have been written, all of them are there. -/
theorem content?_after_writeAll (h : ∃ written, (writeAll now files).outcome tree = .ok written) :
    ∀ entry ∈ files, ∃ text,
      ((writeAll now files).after tree).content? entry.1 = some (.file text) := by
  induction files generalizing tree with
  | nil => exact fun entry hentry => absurd hentry List.not_mem_nil
  | cons entry files ih =>
    obtain ⟨hentry, hfiles⟩ := exists_outcome_writeAll_cons_iff.1 h
    rw [after_writeAll_cons hentry]
    refine List.forall_mem_cons.2 ⟨?_, ih hfiles⟩
    refine (keepsKinds_writeAll now files _ entry.1).2 entry.2 ?_
    rw [content?_of_writable now entry.2 hentry, if_pos rfl]

/-- Files that are all there do not cross. -/
theorem not_crossed_of_outcome_writeAll
    (h : ∃ written, (writeAll now files).outcome tree = .ok written) : ¬Crossed files := by
  rintro ⟨first, hfirst, second, hsecond, hne, rest, hway⟩
  obtain ⟨text, htext⟩ := content?_after_writeAll h first hfirst
  obtain ⟨below, hbelow⟩ := content?_after_writeAll h second hsecond
  have hrest : rest ≠ [] := by
    rintro rfl
    rw [List.append_nil] at hway
    exact hne hway
  rw [← hway] at hbelow
  have hdir := FileTree.content?_of_append hrest (by rw [hbelow]; simp)
  rw [hdir] at htext
  cases htext

/-- When writable files are not all written, then something new has been left in the tree: the write
that failed was blocked by an earlier one of the batch. -/
theorem exists_new_of_writeAll (hwritable : ∀ entry ∈ files, tree.Writable entry.1)
    (h : ¬∃ written, (writeAll now files).outcome tree = .ok written) :
    ∃ front, tree.content? front = none ∧
      ((writeAll now files).after tree).content? front ≠ none := by
  induction files generalizing tree with
  | nil => exact absurd ⟨[], rfl⟩ h
  | cons entry files ih =>
    obtain ⟨hentry, hfiles⟩ := List.forall_mem_cons.1 hwritable
    rw [exists_outcome_writeAll_cons_iff, not_and] at h
    rw [after_writeAll_cons hentry]
    have hkeeps := keepsKinds_writeFile now entry.1 entry.2 tree
    have hkeeps' := keepsKinds_writeAll now files ((writeFile now entry.1 entry.2 true).after tree)
    by_cases hstill : ∀ other ∈ files,
        ((writeFile now entry.1 entry.2 true).after tree).Writable other.1
    · obtain ⟨front, hnone, hsome⟩ := ih hstill (h hentry)
      exact ⟨front, hkeeps.content?_eq_none hnone, hsome⟩
    · simp only [not_forall, exists_prop] at hstill
      obtain ⟨other, hother, hblocked⟩ := hstill
      have hcross : Crosses entry.1 other.1 := by
        by_contra hcross
        exact hblocked (writable_after_writeFile hentry (hfiles other hother) hcross)
      obtain ⟨front, hnone, hsome⟩ := exists_new_of_crosses hentry (hfiles other hother) hcross
      exact ⟨front, hnone, fun h => hsome (hkeeps'.content?_eq_none h)⟩

end Edit
end Shellbox
