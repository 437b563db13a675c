import Shellbox.Proofs.Upload
/-!
# The order of a batch of files

The files of a batch are written one after the other, and each write works on what the ones before it
have made. All the same the order does not matter, as long as no path comes twice.

Whether a batch is written to its end is known to depend on its entries alone: all of its paths have to
be writable in the tree as it is, and no two of them may cross (`Edit.exists_outcome_upload_iff`). What
the tree holds then depends on the entries alone as well. `FileTree.Receives` tells it through
membership in the batch: a path of the batch reads as its text, a missing path on the way to one is a
directory, and all else is as before. Every batch that is written is received
(`Edit.receives_writeAll`), to be received does not depend on the order (`FileTree.Receives.perm`), and
two trees that have received the same batch hold the same (`FileTree.Receives.content?_eq`).
-/

namespace Shellbox

namespace FileTree

/-- A file is read exactly if it is there, and gives its text. -/
theorem fileText_eq_ok_iff {tree : FileTree} {path : Path} {text : String} :
    tree.fileText path = .ok text ↔ tree.content? path = some (.file text) := by
  rcases List.eq_nil_or_concat' path with rfl | ⟨parent, name, rfl⟩
  · exact ⟨fun h => (by cases h), fun h => (by cases h)⟩
  unfold fileText
  rw [Path.split?_append]
  cases hdir : tree.directory parent with
  | ok inside =>
    rw [content?_child hdir]
    cases hname : inside.find? name with
    | none => simp [hdir, hname, bind, Except.bind]
    | some child => cases child <;> simp [hdir, hname, bind, Except.bind, Node.content]
  | error fault =>
    -- above what is there, there would be a directory
    have hnone : tree.content? (parent ++ [name]) = none := by
      by_contra hheld
      obtain ⟨inside, hinside⟩ := directory_ok_iff_content?.2
        (content?_of_append (List.cons_ne_nil name []) hheld)
      rw [hdir] at hinside
      cases hinside
    simp [hdir, hnone, bind, Except.bind]

/-- The tree `after` is the tree `before` with a batch of files, and with the directories that were
missing on the way to them. -/
structure Receives (before after : FileTree) (files : List (Path × String)) : Prop where
  /-- Every path of the batch reads as its text. -/
  read : ∀ entry ∈ files, after.fileText entry.1 = .ok entry.2
  /-- What was missing above a path of the batch is a directory. -/
  filled : ∀ entry ∈ files, ∀ front, front <+: entry.1 → front ≠ entry.1 →
    before.content? front = none → after.content? front = some .dir
  /-- Every other path holds what it held. -/
  kept : ∀ other, (∀ entry ∈ files, other ≠ entry.1 ∧
      ¬(other <+: entry.1 ∧ before.content? other = none)) →
    after.content? other = before.content? other

namespace Receives

variable {before after later : FileTree} {files others : List (Path × String)}

/-- A batch is received in any order. -/
theorem perm (h : before.Receives after files) (hperm : files.Perm others) :
    before.Receives after others where
  read entry hentry := h.read entry (hperm.mem_iff.2 hentry)
  filled entry hentry := h.filled entry (hperm.mem_iff.2 hentry)
  kept other hother := h.kept other fun entry hentry => hother entry (hperm.mem_iff.1 hentry)

/-- Two trees that have received the same batch hold the same at every path. -/
theorem content?_eq (h : before.Receives after files) (h' : before.Receives later files)
    (path : Path) : after.content? path = later.content? path := by
  by_cases hwritten : ∃ entry ∈ files, path = entry.1
  · obtain ⟨entry, hentry, rfl⟩ := hwritten
    rw [fileText_eq_ok_iff.1 (h.read entry hentry), fileText_eq_ok_iff.1 (h'.read entry hentry)]
  by_cases hway : ∃ entry ∈ files, path <+: entry.1 ∧ before.content? path = none
  · obtain ⟨entry, hentry, hprefix, hmissing⟩ := hway
    have hne : path ≠ entry.1 := fun heq => hwritten ⟨entry, hentry, heq⟩
    rw [h.filled entry hentry path hprefix hne hmissing,
      h'.filled entry hentry path hprefix hne hmissing]
  · have hother : ∀ entry ∈ files, path ≠ entry.1 ∧
        ¬(path <+: entry.1 ∧ before.content? path = none) := fun entry hentry =>
      ⟨fun heq => hwritten ⟨entry, hentry, heq⟩, fun hmissing => hway ⟨entry, hentry, hmissing⟩⟩
    rw [h.kept path hother, h'.kept path hother]

end Receives

end FileTree

namespace Edit

variable {now : Nat} {other : Path} {files : List (Path × String)} {tree : FileTree}

/-- What a path that is not in a batch holds when the batch was written. -/
theorem content?_after_writeAll_elsewhere
    (h : ∃ written, (writeAll now files).outcome tree = .ok written)
    (hother : ∀ entry ∈ files, other ≠ entry.1) :
    ((writeAll now files).after tree).content? other =
      (tree.content? other).or (if ∃ entry ∈ files, other <+: entry.1 then some .dir else none) := by
  induction files generalizing tree with
  | nil => simp [writeAll]
  | cons entry files ih =>
    obtain ⟨hentry, hfiles⟩ := exists_outcome_writeAll_cons_iff.1 h
    obtain ⟨hne, hrest⟩ := List.forall_mem_cons.1 hother
    rw [after_writeAll_cons hentry, ih hfiles hrest, content?_of_writable now entry.2 hentry,
      if_neg hne, Option.or_assoc]
    have hsplit := List.exists_mem_cons_iff (fun later => other <+: later.1) entry files
    by_cases hway : other <+: entry.1
    · rw [if_pos hway, if_pos (hsplit.2 (.inl hway))]
      split_ifs <;> rfl
    · rw [if_neg hway, Option.none_or, if_congr (hsplit.trans (or_iff_right hway)) rfl rfl]

/-- When a batch in which no path comes twice was written, every path of it holds its text. -/
theorem content?_after_writeAll_of_mem
    (h : ∃ written, (writeAll now files).outcome tree = .ok written)
    (hdistinct : (files.map Prod.fst).Nodup) :
    ∀ entry ∈ files, ((writeAll now files).after tree).content? entry.1 = some (.file entry.2) := by
  induction files generalizing tree with
  | nil => exact fun entry hentry => absurd hentry List.not_mem_nil
  | cons entry files ih =>
    obtain ⟨hentry, hfiles⟩ := exists_outcome_writeAll_cons_iff.1 h
    obtain ⟨hfresh, hrest⟩ := List.nodup_cons.1 hdistinct
    rw [after_writeAll_cons hentry]
    refine List.forall_mem_cons.2 ⟨?_, ih hfiles hrest⟩
    -- none of the later writes is at this path
    have hlater : ∀ later ∈ files, entry.1 ≠ later.1 := fun later hmem heq =>
      hfresh (heq ▸ List.mem_map_of_mem hmem)
    rw [content?_after_writeAll_elsewhere hfiles hlater, content?_of_writable now entry.2 hentry,
      if_pos rfl]
    rfl

/-- A batch that is written to its end is received. -/
theorem receives_writeAll (h : ∃ written, (writeAll now files).outcome tree = .ok written)
    (hdistinct : (files.map Prod.fst).Nodup) :
    tree.Receives ((writeAll now files).after tree) files where
  read entry hentry :=
    FileTree.fileText_eq_ok_iff.2 (content?_after_writeAll_of_mem h hdistinct entry hentry)
  filled entry hentry front hfront hne hmissing := by
    have hother : ∀ other ∈ files, front ≠ other.1 := by
      rintro other hother rfl
      exact not_crossed_of_outcome_writeAll h ⟨other, hother, entry, hentry, hne, hfront⟩
    rw [content?_after_writeAll_elsewhere h hother, hmissing, if_pos ⟨entry, hentry, hfront⟩]
    rfl
  kept other hother := by
    rw [content?_after_writeAll_elsewhere h fun entry hentry => (hother entry hentry).1]
    cases hheld : tree.content? other with
    | some held => rfl
    | none =>
      have hnoway : ¬∃ entry ∈ files, other <+: entry.1 := fun ⟨entry, hentry, hway⟩ =>
        (hother entry hentry).2 ⟨hway, hheld⟩
      rw [if_neg hnoway]
      rfl

theorem not_crossed_iff : ¬Crossed files ↔
    ∀ above ∈ files, ∀ below ∈ files, above.1 ≠ below.1 → ¬above.1 <+: below.1 := by
  simp only [Crossed, not_exists, not_and]

/-- Whether a batch is uploaded does not depend on its order. -/
theorem exists_outcome_upload_perm {later : Nat} {others : List (Path × String)}
    (hperm : files.Perm others) :
    (∃ written, (upload now files).outcome tree = .ok written) ↔
      ∃ written, (upload later others).outcome tree = .ok written := by
  rw [exists_outcome_upload_iff, exists_outcome_upload_iff]
  simp only [Crossed, hperm.mem_iff]

/-- A batch that is uploaded is received. -/
theorem receives_upload (h : ∃ written, (upload now files).outcome tree = .ok written)
    (hdistinct : (files.map Prod.fst).Nodup) :
    tree.Receives ((upload now files).after tree) files := by
  obtain ⟨hwritable, hcross⟩ := (exists_outcome_upload_iff now files tree).1 h
  have hafter : (upload now files).after tree = (writeAll now files).after tree := by
    rw [upload_eq, after_bind, after_checkAll, outcome_checkAll_eq_ok_iff.2 hwritable]
  rw [hafter]
  exact receives_writeAll (exists_outcome_writeAll hwritable hcross) hdistinct

end Edit

namespace Operation

variable {now later : Nat} {cwd : String} {tree : FileTree} {files others : List (String × String)}

/-- Of a file alone: it is written exactly if its path is writable. -/
theorem outcome_writeFile_iff {path text : String} :
    ((writeFile path text true).perform now cwd).outcome tree = .ok [Path.read cwd path] ↔
      tree.Writable (Path.read cwd path) := by
  rw [← @Edit.outcome_writeFile_iff_writable now _ text]
  simp only [perform, bind_pure_comp, Edit.outcome_map]
  cases (Edit.writeFile now (Path.read cwd path) text true).outcome tree <;> simp [Except.map]

/-- **An upload does not depend on the order of its files.** Take a batch in which no path comes twice,
and the same batch in another order. One is uploaded exactly if the other one is, and this is exactly
the case if each file alone could be written into the tree as it is and no path is a proper part of the
way to another one. Both leave a tree that holds the same at every path, and that has received the
batch: all files read back, what was missing above them is a directory, and all else is as before. -/
theorem upload_perm (hperm : files.Perm others)
    (hdistinct : (files.map fun file => Path.read cwd file.1).Nodup) :
    let first := (upload files).perform now cwd
    let second := (upload others).perform later cwd
    ((∃ written, first.outcome tree = .ok written) ↔ ∃ written, second.outcome tree = .ok written) ∧
      ((∃ written, first.outcome tree = .ok written) ↔
        (∀ file ∈ files, ((writeFile file.1 file.2 true).perform now cwd).outcome tree =
            .ok [Path.read cwd file.1]) ∧
          ∀ above ∈ files, ∀ below ∈ files, Path.read cwd above.1 ≠ Path.read cwd below.1 →
            ¬Path.read cwd above.1 <+: Path.read cwd below.1) ∧
      ((∃ written, first.outcome tree = .ok written) →
        (∀ path, (first.after tree).content? path = (second.after tree).content? path) ∧
          tree.Receives (first.after tree) (batch cwd files) ∧
          tree.Receives (second.after tree) (batch cwd files)) := by
  intro first second
  have hpairs : (batch cwd files).Perm (batch cwd others) := hperm.map _
  have hkeys : ((batch cwd files).map Prod.fst).Nodup := by
    rw [batch, List.map_map]
    exact hdistinct
  have hsame := @Edit.exists_outcome_upload_perm now _ tree later _ hpairs
  refine ⟨hsame, (Edit.exists_outcome_upload_iff now (batch cwd files) tree).trans ?_, fun h => ?_⟩
  · rw [Edit.not_crossed_iff, batch, List.forall_mem_map]
    refine and_congr (forall₂_congr fun file _ => outcome_writeFile_iff.symm) ?_
    exact List.forall_mem_map.trans (forall₂_congr fun above _ => List.forall_mem_map)
  · have hfirst := Edit.receives_upload h hkeys
    have hsecond := (Edit.receives_upload (hsame.1 h) ((hpairs.map Prod.fst).nodup_iff.1 hkeys)).perm
      hpairs.symm
    exact ⟨hfirst.content?_eq hsecond, hfirst, hsecond⟩

/-- A new text for a file that is there and a file below a directory that is not, in both orders and
with the paths read from a directory that is not there either. -/
theorem two_files_upload_in_both_orders :
    let tree : FileTree := ⟨.fresh 0, .file "b" (.fresh 1) "old" .nil⟩
    let first := (upload [("../b", "new"), ("x", "text")]).perform 2 "/a"
    let second := (upload [("x", "text"), ("../b", "new")]).perform 3 "/a"
    first.outcome tree = .ok [["b"], ["a", "x"]] ∧ second.outcome tree = .ok [["a", "x"], ["b"]] ∧
      ∀ path, (first.after tree).content? path = (second.after tree).content? path := by
  intro tree first second
  have hfirst : first.outcome tree = .ok [["b"], ["a", "x"]] := by decide +kernel
  have hperm : [("../b", "new"), ("x", "text")].Perm [("x", "text"), ("../b", "new")] := .swap ..
  have hupload := @upload_perm 2 3 "/a" tree _ _ hperm (by decide +kernel)
  exact ⟨hfirst, by decide +kernel, (hupload.2.2 ⟨_, hfirst⟩).1⟩

end Operation

end Shellbox
