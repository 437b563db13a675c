import Shellbox.Proofs.HeapLooks
/-!
# What a change of linked nodes does to their looks

A change of nodes is looked at in two places. From the changed node down, the looks are compared with
those of the changed tree node; everywhere else nothing has changed. `Heap.Shows.amend` puts the two
together: if a node looks like the tree node at its path, and after the change like the changed
tree node, then the heap shows the tree that was changed at this path.

A directory whose list of children has changed under one key (`Heap.Relists`) is the case that
matters. Every path that does not go through the key leads where it led (`Heap.Relists.at?_eq`), so
only what stands under the key remains to be compared (`Heap.Relists.looks`). Nodes keep their
number and so their children when they come into a directory or go out of it: what is below them
looks as before, since a node that is in no directory is never met on the way
(`Heap.Linked.not_below_of_detached`).
-/

namespace Shellbox
namespace Heap

variable {heap heap' : Heap} {ref other dir child found : Ref} {key name : String}
  {path rest seen : Path} {change : Cell → Cell} {now : ℕ} {node : Node} {stamps : Stamps}
  {inside inside' : Entries} {tree : FileTree} {cell : Cell}

/-! ### One node -/

@[simp] theorem cell_alter_self : (heap.alter ref change).cell ref = change (heap.cell ref) :=
  if_pos rfl

theorem cell_alter_of_ne (h : other ≠ ref) :
    (heap.alter ref change).cell other = heap.cell other := if_neg h

@[simp] theorem cell_grown_next : (heap.grown cell).cell heap.next = cell := if_pos rfl

theorem cell_grown_of_ne (h : ref ≠ heap.next) : (heap.grown cell).cell ref = heap.cell ref :=
  if_neg h

theorem children_congr (h : (heap'.cell ref).held = (heap.cell ref).held) :
    heap'.children ref = heap.children ref := by
  rw [children, children, h]

theorem isDir_congr (h : (heap'.cell ref).held = (heap.cell ref).held) :
    heap'.isDir ref = heap.isDir ref := by
  rw [isDir, isDir, h]

theorem held_of_isDir (h : heap.isDir ref = true) :
    (heap.cell ref).held = .dir (heap.children ref) := by
  rw [isDir] at h
  rw [children]
  cases hheld : (heap.cell ref).held with
  | file text => rw [hheld] at h; cases h
  | dir children => rfl

@[simp] theorem name_relisted (now : ℕ) (f : List (String × Ref) → List (String × Ref))
    (cell : Cell) : (cell.relisted now f).name = cell.name := by
  unfold Cell.relisted
  split <;> rfl

@[simp] theorem parent_relisted (now : ℕ) (f : List (String × Ref) → List (String × Ref))
    (cell : Cell) : (cell.relisted now f).parent = cell.parent := by
  unfold Cell.relisted
  split <;> rfl

/-! ### Nodes in no directory -/

/-- A way down that ends at a node in no directory has not gone anywhere. -/
theorem Linked.eq_nil_of_below (h : heap.Linked) (hparent : (heap.cell found).parent = none)
    (hat : heap.below path ref = some found) : path = [] := by
  rcases List.eq_nil_or_concat' path with rfl | ⟨front, name, rfl⟩
  · rfl
  · rw [below_append] at hat
    obtain ⟨above, -, hname⟩ := Option.bind_eq_some_iff.1 hat
    rw [below_singleton] at hname
    exact absurd hname (h.child?_ne_of_parent_eq_none hparent)

/-- **What a path leads to is not below a node in no directory**, unless this is the root. -/
theorem Linked.not_below_of_detached (h : heap.Linked) (hparent : (heap.cell child).parent = none)
    (hroot : child ≠ root) (hat : heap.at? seen = some dir) (path : Path) :
    heap.below path child ≠ some dir := by
  induction seen using List.reverseRecOn generalizing dir path with
  | nil =>
    intro hbelow
    obtain rfl := Option.some.inj hat
    obtain rfl := h.eq_nil_of_below h.root_parent hbelow
    exact hroot (Option.some.inj hbelow)
  | append_singleton front name ih =>
    intro hbelow
    obtain ⟨above, habove, hname⟩ := at?_concat hat
    have hdir := (h.of_child? hname).2.1
    rcases List.eq_nil_or_concat' path with rfl | ⟨path, last, rfl⟩
    · obtain rfl := Option.some.inj hbelow
      rw [hparent] at hdir
      cases hdir
    · rw [below_append] at hbelow
      obtain ⟨above', habove', hlast⟩ := Option.bind_eq_some_iff.1 hbelow
      rw [below_singleton] at hlast
      obtain rfl : above = above' :=
        Option.some.inj (hdir.symm.trans (h.of_child? hlast).2.1)
      exact ih habove path habove'

/-- No way down from a node that a path leads to comes back to it. -/
theorem Linked.below_ne_self (h : heap.Linked) (hat : heap.at? seen = some ref) (key : String)
    (rest : Path) : heap.below (key :: rest) ref ≠ some ref := by
  intro hbelow
  have hlonger : heap.at? (seen ++ key :: rest) = some ref := by
    rw [at?_append, hat, Option.bind_some, hbelow]
  exact List.cons_ne_nil key rest (List.append_right_eq_self.1 (h.path_unique hlonger hat))

/-- What a path leads to, it leads to afterwards as well. -/
def Keeps (heap heap' : Heap) : Prop :=
  ∀ path ref, heap.at? path = some ref → heap'.at? path = some ref

theorem Keeps.refl (heap : Heap) : heap.Keeps heap := fun _ _ h => h

theorem Keeps.trans {heap'' : Heap} (h : heap.Keeps heap') (h' : heap'.Keeps heap'') :
    heap.Keeps heap'' := fun path ref hat => h' path ref (h path ref hat)

/-! ### Links -/

/-- Links that are only taken away, with nodes changed that are in no directory, still agree. -/
theorem Linked.congr (h : heap.Linked) (hnext : heap.next ≤ heap'.next)
    (hdir : heap'.isDir root = heap.isDir root)
    (hchildren : ∀ ref, heap'.children ref = heap.children ref ∨ heap'.children ref = [])
    (hcell : ∀ ref, ref < heap.next → ref = root ∨ (heap.cell ref).parent ≠ none →
      (heap'.cell ref).name = (heap.cell ref).name ∧
        (heap'.cell ref).parent = (heap.cell ref).parent) :
    heap'.Linked where
  root_name := (hcell root h.root_lt (Or.inl rfl)).1.trans h.root_name
  root_parent := (hcell root h.root_lt (Or.inl rfl)).2.trans h.root_parent
  root_isDir := hdir.trans h.root_isDir
  root_lt := h.root_lt.trans_le hnext
  nodup dir := by
    rcases hchildren dir with hsame | hnone
    · rw [hsame]
      exact h.nodup dir
    · rw [hnone]
      exact List.nodup_nil
  child dir key child hmem := by
    rcases hchildren dir with hsame | hnone
    · rw [hsame] at hmem
      obtain ⟨hname, hparent, hkey, hlt⟩ := h.child dir key child hmem
      have hkept := hcell child hlt (Or.inr (by rw [hparent]; exact Option.some_ne_none dir))
      exact ⟨hkept.1.trans hname, hkept.2.trans hparent, hkey, hlt.trans_le hnext⟩
    · rw [hnone] at hmem
      cases hmem

/-- Where all nodes keep their children, every path leads where it led. -/
theorem below_of_children (h : ∀ ref, heap'.children ref = heap.children ref) (path : Path)
    (ref : Ref) : heap'.below path ref = heap.below path ref :=
  below_congr (fun _ => True) (fun ref _ => h ref) (fun _ _ _ _ _ => trivial) trivial path

/-! ### From a node to the tree -/

/-- **A change at one node shows as a change of the tree at its path.** -/
theorem Shows.amend {change : Node → Node} (h : heap.Shows tree) (hlinked : heap'.Linked)
    (hat : heap.at? seen = some ref) (hkeep : ∀ node, (change node).isDir = node.isDir)
    (hpaths : ∀ path, (∀ key, ¬seen ++ [key] <+: path) → heap'.at? path = heap.at? path)
    (hsurface : ∀ other, other ≠ ref → heap'.surface other = heap.surface other)
    (hlooks : ∀ node, heap.Looks ref node → heap'.Looks ref (change node)) :
    heap'.Shows (tree.amend seen change) := by
  refine ⟨hlinked, fun path => ?_⟩
  change (heap'.at? path).map _ = ((tree.amend seen change).at? path).map _
  by_cases hbelow : seen <+: path
  · obtain ⟨rest, rfl⟩ := hbelow
    obtain ⟨node, hnode, hnodeLooks⟩ := h.looks_of_at? hat
    have hseen : heap'.at? seen = some ref := by
      rw [hpaths seen fun key hkey => ?_, hat]
      exact absurd (hkey.length_le) (by simp)
    rw [at?_append, hseen, Option.bind_some, FileTree.at?_amend_append hkeep, hnode,
      Option.bind_some]
    exact hlooks node hnodeLooks rest
  · have hsame : heap'.at? path = heap.at? path :=
      hpaths path fun key hkey => hbelow ((List.prefix_append seen [key]).trans hkey)
    rw [hsame, FileTree.at?_eq_root, FileTree.root_amend hkeep,
      Node.map_at?_amend_elsewhere Node.surface_replace change hbelow]
    refine Eq.trans ?_ (h.looks path)
    cases hfound : heap.at? path with
    | none =>
      rw [at?] at hfound
      rw [hfound]
      rfl
    | some found =>
      have hne : found ≠ ref := by
        rintro rfl
        exact hbelow (h.linked.path_unique hat hfound ▸ List.prefix_refl seen)
      rw [at?] at hfound
      rw [hfound, Option.map_some, Option.map_some, hsurface found hne]

/-! ### A change that leaves the links -/

section Alter

theorem children_alter (h : (heap.alter ref change).children ref = heap.children ref) (other : Ref) :
    (heap.alter ref change).children other = heap.children other := by
  by_cases hother : other = ref
  · rw [hother, h]
  · exact children_congr (by rw [cell_alter_of_ne hother])

theorem surface_alter_of_ne (h : other ≠ ref) :
    (heap.alter ref change).surface other = heap.surface other :=
  surface_congr (by rw [cell_alter_of_ne h]) (by rw [cell_alter_of_ne h])

/-- A changed node keeps its children, and the others with it. -/
theorem Linked.alter (h : heap.Linked)
    (hdir : (heap.alter ref change).isDir ref = heap.isDir ref)
    (hchildren : (heap.alter ref change).children ref = heap.children ref)
    (hcell : ref = root ∨ (heap.cell ref).parent ≠ none →
      (change (heap.cell ref)).name = (heap.cell ref).name ∧
        (change (heap.cell ref)).parent = (heap.cell ref).parent) :
    (heap.alter ref change).Linked := by
  refine h.congr le_rfl ?_ (fun other => Or.inl (children_alter hchildren other)) ?_
  · by_cases hroot : root = ref
    · rw [hroot, hdir]
    · exact isDir_congr (by rw [cell_alter_of_ne hroot])
  · intro other _ hother
    by_cases hne : other = ref
    · subst hne
      rw [cell_alter_self]
      exact hcell hother
    · rw [cell_alter_of_ne hne]
      exact ⟨rfl, rfl⟩

/-- A node with other stamps or another text looks changed, and nothing below it does. -/
theorem Shows.alter {amended : Node → Node} (h : heap.Shows tree) (hat : heap.at? seen = some ref)
    (hlinked : (heap.alter ref change).Linked)
    (hchildren : (heap.alter ref change).children ref = heap.children ref)
    (hkeep : ∀ node, (amended node).isDir = node.isDir)
    (hsurface : ∀ node, heap.Looks ref node →
      (heap.alter ref change).surface ref = (amended node).surface)
    (hbelow : ∀ node key rest, (amended node).at? (key :: rest) = node.at? (key :: rest)) :
    (heap.alter ref change).Shows (tree.amend seen amended) := by
  have hsame := below_of_children (children_alter hchildren)
  refine h.amend hlinked hat hkeep (fun path _ => hsame path root)
    (fun other hne => surface_alter_of_ne hne) fun node hlooks path => ?_
  cases path with
  | nil => exact congrArg some (hsurface node hlooks)
  | cons key rest =>
    rw [hsame, hbelow node key rest, ← hlooks (key :: rest)]
    cases hfound : heap.below (key :: rest) ref with
    | none => rfl
    | some found =>
      have hne : found ≠ ref := by
        rintro rfl
        exact h.linked.below_ne_self hat key rest hfound
      rw [Option.map_some, Option.map_some, surface_alter_of_ne hne]

/-- Where a node keeps its children, all nodes keep their places. -/
theorem keeps_alter (hchildren : (heap.alter ref change).children ref = heap.children ref) :
    heap.Keeps (heap.alter ref change) := fun path _ hat =>
  (below_of_children (children_alter hchildren) path root).trans hat

theorem held_touched (heap : Heap) (ref : Ref) (now : ℕ) :
    ((heap.alter ref (·.touched now)).cell ref).held = (heap.cell ref).held := by
  rw [cell_alter_self]
  rfl

/-- Stamping a node stamps what is at its path. -/
theorem Shows.touched (h : heap.Shows tree) (hat : heap.at? seen = some ref) (now : ℕ) :
    (heap.alter ref (·.touched now)).Shows (tree.amend seen (.touched now)) := by
  have hheld := held_touched heap ref now
  have hchildren := children_congr hheld
  refine h.alter hat (h.linked.alter (isDir_congr hheld) hchildren fun _ => ⟨rfl, rfl⟩) hchildren
    (Node.isDir_touched now) (fun node hlooks => ?_) fun node key rest => by cases node <;> rfl
  rcases hlooks.cases with ⟨text, hfile, rfl⟩ | ⟨children, inside, hdir, rfl, hnames⟩
  · rw [surface_file (hheld.trans hfile), cell_alter_self]
    rfl
  · rw [surface_dir (hheld.trans hdir), cell_alter_self, ← hnames]
    rfl

theorem withText_same (heap : Heap) (ref : Ref) (now : ℕ) (text : String) :
    (heap.alter ref (·.withText now text)).isDir ref = heap.isDir ref ∧
      (heap.alter ref (·.withText now text)).children ref = heap.children ref := by
  rw [isDir, isDir, children, children, cell_alter_self, Cell.withText]
  cases hheld : (heap.cell ref).held with
  | file old => exact ⟨rfl, rfl⟩
  | dir children => simp only [hheld, and_self]

/-- Another text for a file is another text for what is at its path. -/
theorem Shows.withText (h : heap.Shows tree) (hat : heap.at? seen = some ref) (now : ℕ)
    (text : String) :
    (heap.alter ref (·.withText now text)).Shows (tree.amend seen (.withText now text)) := by
  have hcell : (heap.alter ref (·.withText now text)).cell ref =
      (heap.cell ref).withText now text := cell_alter_self
  obtain ⟨hdir, hchildren⟩ := withText_same heap ref now text
  have hlinks : ((heap.cell ref).withText now text).name = (heap.cell ref).name ∧
      ((heap.cell ref).withText now text).parent = (heap.cell ref).parent := by
    unfold Cell.withText
    split <;> exact ⟨rfl, rfl⟩
  refine h.alter hat (h.linked.alter hdir hchildren fun _ => hlinks) hchildren
    (Node.isDir_withText now text) (fun node hlooks => ?_) fun node key rest => by cases node <;> rfl
  rcases hlooks.cases with ⟨old, hfile, rfl⟩ | ⟨children, inside, hdir, rfl, hnames⟩
  · rw [surface, hcell, Cell.withText, hfile]
    rfl
  · rw [surface, hcell, Cell.withText, hdir]
    simp only [hdir, ← hnames]
    rfl

end Alter

/-! ### Another list of children -/

/-- A directory has other children since a time, under one key at most. -/
structure Relists (before : Heap) (now : ℕ) (dir : Ref) (key : String) (after : Heap) : Prop where
  wasDir : before.isDir dir = true
  isDir : after.isDir dir = true
  stamps : (after.cell dir).stamps = (before.cell dir).stamps.touched now
  others : ∀ other, other ≠ key → after.child? dir other = before.child? dir other
  held : ∀ ref, ref ≠ dir → (after.cell ref).held = (before.cell ref).held
  aged : ∀ ref, ref ≠ dir → (after.cell ref).stamps = (before.cell ref).stamps

namespace Relists

/-- A path leads where it led unless it goes through the key. -/
theorem below_eq (h : heap.Relists now dir key heap')
    (hpath : ∀ front rest, path = front ++ key :: rest → heap.below front ref ≠ some dir) :
    heap'.below path ref = heap.below path ref :=
  below_eq_of_other (fun ref hne => children_congr (h.held ref hne)) h.others hpath

/-- From the root, the paths through the key are those below the directory. -/
theorem at?_eq (h : heap.Relists now dir key heap') (hlinked : heap.Linked)
    (hat : heap.at? seen = some dir) (hpath : ¬seen ++ [key] <+: path) :
    heap'.at? path = heap.at? path := by
  refine h.below_eq fun front rest hfront hdir => hpath ?_
  rw [hlinked.path_unique hat hdir, hfront]
  exact (List.prefix_append_right_inj front).2 (List.cons_prefix_cons.2 ⟨rfl, List.nil_prefix⟩)

theorem surface_eq (h : heap.Relists now dir key heap') (hne : ref ≠ dir) :
    heap'.surface ref = heap.surface ref :=
  surface_congr (h.held ref hne) (h.aged ref hne)

/-- What is not above the directory looks as before. -/
theorem looks_of_not_below (h : heap.Relists now dir key heap') (hlooks : heap.Looks ref node)
    (hdir : ∀ path, heap.below path ref ≠ some dir) : heap'.Looks ref node := by
  intro path
  rw [h.below_eq fun front _ _ => hdir front, ← hlooks path]
  cases hfound : heap.below path ref with
  | none => rfl
  | some found =>
    have hne : found ≠ dir := by
      rintro rfl
      exact hdir path hfound
    rw [Option.map_some, Option.map_some, h.surface_eq hne]

/-- The directory looks like one with the same children under all keys but one, if what stands
under this key looks right. -/
theorem looks (h : heap.Relists now dir key heap') (hlooks : heap.Looks dir (.dir stamps inside))
    (hself : ∀ key rest, heap.below (key :: rest) dir ≠ some dir)
    (hnames : inside'.names = Keyed.keys (heap'.children dir))
    (hothers : ∀ other, other ≠ key → inside'.find? other = inside.find? other)
    (hkey : ∀ rest, (heap'.below (key :: rest) dir).map heap'.surface =
      ((inside'.find? key).bind (Node.at? rest)).map Node.surface) :
    heap'.Looks dir (.dir (stamps.touched now) inside') := by
  intro path
  cases path with
  | nil =>
    have hstamps : (heap.cell dir).stamps = stamps := by
      rcases hlooks.cases with ⟨text, -, hnode⟩ | ⟨children, inside, -, hnode, -⟩ <;> cases hnode
      rfl
    rw [below_nil, Option.map_some, surface_dir (held_of_isDir h.isDir), h.stamps, hstamps, ← hnames]
    rfl
  | cons first rest =>
    by_cases hfirst : first = key
    · subst hfirst
      exact hkey rest
    · have hbelow : heap'.below (first :: rest) dir = heap.below (first :: rest) dir := by
        refine h.below_eq fun front further hfront => ?_
        cases front with
        | nil => exact absurd (List.cons.inj hfront).1 hfirst
        | cons second front => exact hself second front
      rw [hbelow, Node.at?_cons_dir, hothers first hfirst, ← Node.at?_cons_dir, ← hlooks]
      cases hfound : heap.below (first :: rest) dir with
      | none => rfl
      | some found =>
        have hne : found ≠ dir := by
          rintro rfl
          exact hself first rest hfound
        rw [Option.map_some, Option.map_some, h.surface_eq hne]

/-- **A directory with other children shows as one in the tree.** -/
theorem shows (h : heap.Relists now dir key heap') (hshows : heap.Shows tree)
    (hlinked : heap'.Linked) (hat : heap.at? seen = some dir) {f : Entries → Entries}
    (hlooks : ∀ stamps inside, heap.Looks dir (.dir stamps inside) →
      heap'.Looks dir (.dir (stamps.touched now) (f inside))) :
    heap'.Shows (tree.amend seen (.relisted now f)) := by
  refine hshows.amend hlinked hat (Node.isDir_relisted now f)
    (fun path hpath => h.at?_eq hshows.linked hat (hpath key)) (fun other => h.surface_eq)
    fun node hnode => ?_
  cases node with
  | file stamps text =>
    have hfile := hnode.isDir_eq
    rw [h.wasDir] at hfile
    cases hfile
  | dir stamps inside => exact hlooks stamps inside hnode

/-- The links agree where each child that is listed refers back, and a new one has a proper name. -/
theorem linked (h : heap.Relists now dir key heap') (hlinked : heap.Linked)
    (hnext : heap'.next = heap.next)
    (hnames : ∀ ref, (heap'.cell ref).name = (heap.cell ref).name)
    (hroot : (heap'.cell root).parent = none)
    (hnodup : (Keyed.keys (heap'.children dir)).Nodup)
    (hparents : ∀ ref key child, (key, child) ∈ heap'.children ref →
      (heap'.cell child).parent = some ref)
    (hnew : ∀ key child, (key, child) ∈ heap'.children dir → (key, child) ∈ heap.children dir ∨
      (heap.cell child).name = key ∧ Edit.isName key ∧ child < heap.next) : heap'.Linked where
  root_name := (hnames root).trans hlinked.root_name
  root_parent := hroot
  root_isDir := by
    by_cases hdir : root = dir
    · rw [hdir, h.isDir]
    · rw [isDir_congr (h.held root hdir), hlinked.root_isDir]
  root_lt := hnext ▸ hlinked.root_lt
  nodup ref := by
    by_cases hdir : ref = dir
    · rwa [hdir]
    · rw [children_congr (h.held ref hdir)]
      exact hlinked.nodup ref
  child ref key child hmem := by
    rw [hnames, hnext]
    have hold : (key, child) ∈ heap.children ref ∨
        (heap.cell child).name = key ∧ Edit.isName key ∧ child < heap.next := by
      by_cases hdir : ref = dir
      · subst hdir
        exact hnew key child hmem
      · rw [children_congr (h.held ref hdir)] at hmem
        exact Or.inl hmem
    have hchild : (heap.cell child).name = key ∧ Edit.isName key ∧ child < heap.next := by
      rcases hold with hold | hnew
      · obtain ⟨hname, -, hkey, hlt⟩ := hlinked.child ref key child hold
        exact ⟨hname, hkey, hlt⟩
      · exact hnew
    exact ⟨hchild.1, hparents ref key child hmem, hchild.2⟩

end Relists

end Heap
end Shellbox
