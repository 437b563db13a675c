import Shellbox.Proofs.HeapChanges
/-!
# Linked nodes that change their place

Nodes keep their numbers, and with them their children, when they come into a directory or go out of
it. Both are one change of the links (`Heap.relink`): a directory lists other children, and one node
refers to another directory or to none. A node that may come into a directory is loose
(`Heap.Loose`): it is in none, and it has a proper name. Then it shows in the tree as a node that is
pushed (`Heap.Shows.adopt`), and a child that is taken out as one that is erased
(`Heap.Shows.release`).

New nodes get new numbers, so that all nodes that were there are as they were (`Heap.Extends`).
-/

namespace Shellbox
namespace Heap

variable {heap heap' : Heap} {ref other dir child found : Ref} {key name : String}
  {path rest seen : Path} {now : ℕ} {node : Node} {stamps : Stamps} {inside : Entries}
  {tree : FileTree} {cell : Cell}

/-! ### Into a directory and out of it -/

section Relink

variable {parent : Option Ref} {f : List (String × Ref) → List (String × Ref)}

theorem cell_relink_dir (hne : dir ≠ child) :
    (heap.relink now dir child parent f).cell dir = (heap.cell dir).relisted now f := by
  rw [relink, cell_alter_self, cell_alter_of_ne hne]

theorem cell_relink_child (hne : dir ≠ child) :
    (heap.relink now dir child parent f).cell child = { heap.cell child with parent } := by
  rw [relink, cell_alter_of_ne hne.symm, cell_alter_self]

theorem cell_relink_of_ne (hdir : ref ≠ dir) (hchild : ref ≠ child) :
    (heap.relink now dir child parent f).cell ref = heap.cell ref := by
  rw [relink, cell_alter_of_ne hdir, cell_alter_of_ne hchild]

theorem name_relink (hne : dir ≠ child) (ref : Ref) :
    ((heap.relink now dir child parent f).cell ref).name = (heap.cell ref).name := by
  by_cases hdir : ref = dir
  · rw [hdir, cell_relink_dir hne, name_relisted]
  · by_cases hchild : ref = child
    · rw [hchild, cell_relink_child hne]
    · rw [cell_relink_of_ne hdir hchild]

theorem parent_relink_of_ne (hne : dir ≠ child) (hchild : ref ≠ child) :
    ((heap.relink now dir child parent f).cell ref).parent = (heap.cell ref).parent := by
  by_cases hdir : ref = dir
  · rw [hdir, cell_relink_dir hne, parent_relisted]
  · rw [cell_relink_of_ne hdir hchild]

theorem children_relink (hne : dir ≠ child) (hdir : heap.isDir dir = true) :
    (heap.relink now dir child parent f).children dir = f (heap.children dir) := by
  rw [children, cell_relink_dir hne, Cell.relisted, held_of_isDir hdir]

theorem relists_relink (hne : dir ≠ child) (hdir : heap.isDir dir = true)
    (hothers : ∀ other, other ≠ key →
      (f (heap.children dir)).lookup other = (heap.children dir).lookup other) :
    heap.Relists now dir key (heap.relink now dir child parent f) where
  wasDir := hdir
  isDir := by rw [isDir, cell_relink_dir hne, Cell.relisted, held_of_isDir hdir]
  stamps := by rw [cell_relink_dir hne, Cell.relisted, held_of_isDir hdir]
  others other hother := by rw [child?, children_relink hne hdir, hothers other hother, child?]
  held ref href := by
    by_cases hchild : ref = child
    · rw [hchild, cell_relink_child hne]
    · rw [cell_relink_of_ne href hchild]
  aged ref href := by
    by_cases hchild : ref = child
    · rw [hchild, cell_relink_child hne]
    · rw [cell_relink_of_ne href hchild]

/-- A child that is listed refers back, if one that was listed before is not the node that was told
something else. -/
theorem parent_relink (hlinked : heap.Linked) (hne : dir ≠ child)
    (hmem : (key, found) ∈ heap.children ref) (hfound : found ≠ child) :
    ((heap.relink now dir child parent f).cell found).parent = some ref := by
  rw [parent_relink_of_ne hne hfound]
  exact (hlinked.child ref key found hmem).2.1

end Relink

/-- A node in no directory that may come into one. -/
structure Loose (heap : Heap) (ref : Ref) : Prop where
  parent : (heap.cell ref).parent = none
  ne_root : ref ≠ root
  lt : ref < heap.next
  isName : Edit.isName (heap.cell ref).name

theorem Linked.ne_of_loose (h : heap.Linked) (hloose : heap.Loose child)
    (hat : heap.at? seen = some dir) : dir ≠ child := fun heq =>
  h.not_below_of_detached hloose.parent hloose.ne_root hat [] (heq ▸ rfl)

section Adopt

theorem children_adopt (hne : dir ≠ child) (hdir : heap.isDir dir = true) :
    (heap.adopt now dir child).children dir =
      Keyed.put (heap.cell child).name child (heap.children dir) :=
  children_relink hne hdir

theorem relists_adopt (now : ℕ) (hne : dir ≠ child) (hdir : heap.isDir dir = true) :
    heap.Relists now dir (heap.cell child).name (heap.adopt now dir child) :=
  relists_relink hne hdir fun other hother => by rw [Keyed.lookup_put, if_neg hother]

/-- A loose node may come into a directory. -/
theorem Linked.adopt (h : heap.Linked) (hloose : heap.Loose child) (hne : dir ≠ child)
    (hdir : heap.isDir dir = true) (now : ℕ) : (heap.adopt now dir child).Linked := by
  have hrelists := relists_adopt now hne hdir
  -- a child from before is not the one that comes in, which was in no directory
  have hold : ∀ ref key other, (key, other) ∈ heap.children ref →
      ((heap.adopt now dir child).cell other).parent = some ref := by
    intro ref key other hmem
    refine parent_relink h hne hmem ?_
    rintro rfl
    have hparent := (h.child ref key other hmem).2.1
    rw [hloose.parent] at hparent
    cases hparent
  refine hrelists.linked h rfl (name_relink hne) ?_ ?_ (fun ref key other hmem => ?_)
    fun key other hmem => ?_
  · exact (parent_relink_of_ne hne hloose.ne_root.symm).trans h.root_parent
  · rw [children_adopt hne hdir]
    exact Keyed.nodup_keys_put (h.nodup dir) _ child
  · by_cases href : ref = dir
    · subst href
      rw [children_adopt hne hdir] at hmem
      rcases Keyed.mem_of_mem_put hmem with heq | hmem
      · cases heq
        exact congrArg Cell.parent (cell_relink_child hne)
      · exact hold ref key other hmem
    · rw [children_congr (hrelists.held ref href)] at hmem
      exact hold ref key other hmem
  · rw [children_adopt hne hdir] at hmem
    rcases Keyed.mem_of_mem_put hmem with heq | hmem
    · cases heq
      exact Or.inr ⟨rfl, hloose.isName, hloose.lt⟩
    · exact Or.inl hmem

/-- A directory into which a node comes under a free name looks as if it were pushed. -/
theorem Looks.adopt (h : heap.Looks dir (.dir stamps inside)) (hchild : heap.Looks child node)
    (hself : ∀ key rest, heap.below (key :: rest) dir ≠ some dir)
    (hbelow : ∀ path, heap.below path child ≠ some dir)
    (hfree : heap.child? dir (heap.cell child).name = none) (now : ℕ) :
    (heap.adopt now dir child).Looks dir
      (.dir (stamps.touched now) (inside.push (heap.cell child).name node)) := by
  have hne : dir ≠ child := fun heq => hbelow [] (heq ▸ rfl)
  have hdir := h.isDir_of_dir
  have hrelists := relists_adopt now hne hdir
  have hfind : inside.find? (heap.cell child).name = none := by
    rw [Entries.find?_eq_none_iff, h.names_eq]
    exact Keyed.lookup_eq_none_iff.1 hfree
  refine hrelists.looks h hself ?_ (fun other hother => Entries.find?_push_of_ne hother node inside)
    fun rest => ?_
  · rw [Entries.names_push, children_adopt hne hdir, Keyed.keys_put,
      if_neg (Keyed.lookup_eq_none_iff.1 hfree), h.names_eq]
  · rw [below_cons, child?, children_adopt hne hdir, Keyed.lookup_put, if_pos rfl, Option.bind_some,
      Entries.find?_push, hfind, Option.none_or, if_pos rfl, Option.bind_some]
    exact hrelists.looks_of_not_below hchild hbelow rest

section

variable (h : heap.Shows tree) (hat : heap.at? seen = some dir) (hdir : heap.isDir dir = true)
  (hloose : heap.Loose child) (now : ℕ)

include h hat hdir hloose

/-- What comes into a directory is at the path of the directory and its name. -/
theorem Shows.at?_adopt :
    (heap.adopt now dir child).at? (seen ++ [(heap.cell child).name]) = some child := by
  have hne : dir ≠ child := h.linked.ne_of_loose hloose hat
  have hseen : (heap.adopt now dir child).at? seen = some dir := by
    rw [(relists_adopt now hne hdir).at?_eq h.linked hat fun hprefix => ?_, hat]
    exact absurd hprefix.length_le (by simp)
  rw [at?_append, hseen, Option.bind_some, below_singleton, child?, children_adopt hne hdir,
    Keyed.lookup_put, if_pos rfl]

variable (hfree : heap.child? dir (heap.cell child).name = none)

include hfree

/-- **A loose node that comes into a directory shows as a node that is pushed.** -/
theorem Shows.adopt (hchild : heap.Looks child node) :
    (heap.adopt now dir child).Shows
      (tree.amend seen (.relisted now (·.push (heap.cell child).name node))) := by
  have hne : dir ≠ child := h.linked.ne_of_loose hloose hat
  exact (relists_adopt now hne hdir).shows h (h.linked.adopt hloose hne hdir now) hat
    fun stamps inside hlooks => hlooks.adopt hchild (h.linked.below_ne_self hat)
      (h.linked.not_below_of_detached hloose.parent hloose.ne_root hat) hfree now

/-- All else stays at its path. -/
theorem Shows.keeps_adopt : heap.Keeps (heap.adopt now dir child) := by
  intro path ref href
  have hne : dir ≠ child := h.linked.ne_of_loose hloose hat
  rw [(relists_adopt now hne hdir).at?_eq h.linked hat fun hprefix => ?_, href]
  obtain ⟨rest, rfl⟩ := hprefix
  rw [at?_append, at?_append, hat, Option.bind_some, below_singleton, hfree] at href
  cases href

end

end Adopt

section Release

variable (h : heap.Linked) (hat : heap.at? seen = some dir) (hchild : heap.child? dir key = some child)

include h hat hchild

theorem ne_of_child? : dir ≠ child := by
  rintro rfl
  refine h.below_ne_self hat key [] ?_
  rw [below_singleton, hchild]

theorem children_release (now : ℕ) :
    (heap.release now dir key child).children dir =
      (heap.children dir).eraseP fun pair => pair.1 = key :=
  children_relink (ne_of_child? h hat hchild) (isDir_of_child? hchild)

theorem relists_release (now : ℕ) :
    heap.Relists now dir key (heap.release now dir key child) :=
  relists_relink (ne_of_child? h hat hchild) (isDir_of_child? hchild) fun other hother => by
    rw [Keyed.lookup_erase (h.nodup dir), if_neg hother]

/-- A child may be taken out of its directory. -/
theorem Linked.release (now : ℕ) : (heap.release now dir key child).Linked := by
  have hrelists := relists_release h hat hchild now
  have hchildren := children_release h hat hchild now
  have hne := ne_of_child? h hat hchild
  obtain ⟨hname, hparent, -, -⟩ := h.of_child? hchild
  refine hrelists.linked h rfl (name_relink hne) ?_ ?_ (fun ref key' other hmem => ?_)
    fun key' other hmem => ?_
  · rw [Heap.release, parent_relink_of_ne hne, h.root_parent]
    rintro rfl
    rw [h.root_parent] at hparent
    cases hparent
  · rw [hchildren, Keyed.keys_erase]
    exact (h.nodup dir).erase key
  · by_cases href : ref = dir
    · subst href
      rw [hchildren] at hmem
      have hold := List.mem_of_mem_eraseP hmem
      refine parent_relink h hne hold ?_
      -- the child is listed under its own name, which is gone
      rintro rfl
      obtain rfl := (h.child ref key' other hold).1.symm.trans hname
      have hkey := List.mem_map_of_mem (f := Prod.fst) hmem
      rw [← Keyed.keys, Keyed.keys_erase] at hkey
      exact (h.nodup ref).not_mem_erase hkey
    · rw [children_congr (hrelists.held ref href)] at hmem
      refine parent_relink h hne hmem ?_
      rintro rfl
      exact href (Option.some.inj ((h.child ref key' other hmem).2.1.symm.trans hparent))
  · rw [hchildren] at hmem
    exact Or.inl (List.mem_of_mem_eraseP hmem)

/-- A directory that a child is taken out of looks as if the child were erased. -/
theorem Looks.release (hlooks : heap.Looks dir (.dir stamps inside)) (now : ℕ) :
    (heap.release now dir key child).Looks dir (.dir (stamps.touched now) (inside.erase key)) := by
  have hchildren := children_release h hat hchild now
  refine (relists_release h hat hchild now).looks hlooks (h.below_ne_self hat) ?_
    (fun other hother => Entries.find?_erase_of_ne hother inside) fun rest => ?_
  · rw [Entries.names_erase, hchildren, Keyed.keys_erase, hlooks.names_eq]
  · have hfind : (inside.erase key).find? key = none := by
      rw [Entries.find?_eq_none_iff, Entries.names_erase, hlooks.names_eq]
      exact (h.nodup dir).not_mem_erase
    rw [below_cons, child?, hchildren, Keyed.lookup_erase (h.nodup dir), if_pos rfl, hfind]
    rfl

/-- What was taken out looks as before. -/
theorem looks_released (hlooks : heap.Looks child node) (now : ℕ) :
    (heap.release now dir key child).Looks child node := by
  refine (relists_release h hat hchild now).looks_of_not_below hlooks fun path hpath => ?_
  refine h.below_ne_self hat key path ?_
  rw [below_cons, hchild, Option.bind_some, hpath]

/-- What was taken out may come into a directory again. -/
theorem loose_released (now : ℕ) : (heap.release now dir key child).Loose child := by
  have hne := ne_of_child? h hat hchild
  obtain ⟨hname, hparent, hkey, hlt⟩ := h.of_child? hchild
  refine ⟨congrArg Cell.parent (cell_relink_child hne), ?_, hlt, ?_⟩
  · rintro rfl
    rw [h.root_parent] at hparent
    cases hparent
  · rw [Heap.release, name_relink hne, hname]
    exact hkey

end Release

/-- **A child that is taken out shows as a node that is erased.** -/
theorem Shows.release (h : heap.Shows tree) (hat : heap.at? seen = some dir)
    (hchild : heap.child? dir key = some child) (now : ℕ) :
    (heap.release now dir key child).Shows (tree.amend seen (.relisted now (·.erase key))) :=
  (relists_release h.linked hat hchild now).shows h (h.linked.release hat hchild now) hat
    fun _ _ hlooks => Looks.release h.linked hat hchild hlooks now

/-! ### New nodes and new names -/

/-- The nodes that were there are as they were. -/
structure Extends (before after : Heap) : Prop where
  next_le : before.next ≤ after.next
  cell_eq : ∀ ref, ref < before.next → after.cell ref = before.cell ref

namespace Extends

theorem trans {heap'' : Heap} (h : heap.Extends heap') (h' : heap'.Extends heap'') :
    heap.Extends heap'' :=
  ⟨h.next_le.trans h'.next_le, fun ref hlt =>
    (h'.cell_eq ref (hlt.trans_le h.next_le)).trans (h.cell_eq ref hlt)⟩

theorem below_eq (h : heap.Extends heap') (hlinked : heap.Linked) (hlt : ref < heap.next)
    (path : Path) : heap'.below path ref = heap.below path ref :=
  below_congr (· < heap.next) (fun ref hlt => children_congr (congrArg Cell.held (h.cell_eq ref hlt)))
    (fun _ _ _ _ hchild => (hlinked.of_child? hchild).2.2.2) hlt path

theorem looks (h : heap.Extends heap') (hlinked : heap.Linked) (hlt : ref < heap.next)
    (hlooks : heap.Looks ref node) : heap'.Looks ref node := by
  intro path
  rw [h.below_eq hlinked hlt, ← hlooks path]
  cases hfound : heap.below path ref with
  | none => rfl
  | some found =>
    have hcell := h.cell_eq found (hlinked.below_lt hlt hfound)
    rw [Option.map_some, Option.map_some,
      surface_congr (congrArg Cell.held hcell) (congrArg Cell.stamps hcell)]

theorem shows (h : heap.Extends heap') (hshows : heap.Shows tree) (hlinked : heap'.Linked) :
    heap'.Shows tree :=
  ⟨hlinked, h.looks hshows.linked hshows.linked.root_lt hshows.looks⟩

theorem at?_eq (h : heap.Extends heap') (hlinked : heap.Linked) (path : Path) :
    heap'.at? path = heap.at? path :=
  h.below_eq hlinked hlinked.root_lt path

/-- What happens among newer nodes leaves the ones from before as they were. -/
theorem adopt (h : heap.Extends heap') (hdir : heap.next ≤ dir) (hchild : heap.next ≤ child) :
    heap.Extends (heap'.adopt now dir child) :=
  ⟨h.next_le, fun ref hlt =>
    (cell_relink_of_ne (hlt.trans_le hdir).ne (hlt.trans_le hchild).ne).trans (h.cell_eq ref hlt)⟩

end Extends

theorem extends_grown (heap : Heap) (cell : Cell) : heap.Extends (heap.grown cell) :=
  ⟨Nat.le_succ heap.next, fun _ hlt => cell_grown_of_ne hlt.ne⟩

/-- A new node without children leaves the links as they are. -/
theorem Linked.grown (h : heap.Linked) (hleaf : (heap.grown cell).children heap.next = []) :
    (heap.grown cell).Linked := by
  refine h.congr (Nat.le_succ heap.next) ?_ (fun ref => ?_) fun ref hlt _ => ?_
  · exact isDir_congr (by rw [cell_grown_of_ne h.root_lt.ne])
  · by_cases href : ref = heap.next
    · rw [href]
      exact Or.inr hleaf
    · exact Or.inl (children_congr (by rw [cell_grown_of_ne href]))
  · rw [cell_grown_of_ne hlt.ne]
    exact ⟨rfl, rfl⟩

/-- What a linked node holds that is made now, and the node of a tree that it looks like. -/
inductive Sprout (now : ℕ) : Held → Node → Prop where
  | file (text : String) : Sprout now (.file text) (.file (.fresh now) text)
  | dir : Sprout now (.dir []) (.dir (.fresh now) .nil)

section Sprout

variable {held : Held} (hsprout : Sprout now held node)

include hsprout

theorem Sprout.looks (h : heap.cell ref = .fresh now name held) :
    heap.children ref = [] ∧ heap.Looks ref node := by
  have hchildren : heap.children ref = [] := by
    rw [children, h]
    cases hsprout <;> rfl
  refine ⟨hchildren, fun path => ?_⟩
  cases path with
  | nil =>
    rw [below_nil, Option.map_some, surface, h]
    cases hsprout <;> rfl
  | cons key rest =>
    rw [below_cons, child?, hchildren]
    cases hsprout <;> rfl

theorem Sprout.linked_grown (h : heap.Linked) (name : String) :
    (heap.grown (.fresh now name held)).Linked :=
  h.grown (hsprout.looks cell_grown_next).1

end Sprout

theorem loose_grown (h : heap.Linked) (hname : Edit.isName name) (now : ℕ) (held : Held) :
    (heap.grown (.fresh now name held)).Loose heap.next where
  parent := congrArg Cell.parent cell_grown_next
  ne_root := h.root_lt.ne'
  lt := Nat.lt_succ_self heap.next
  isName := by rw [cell_grown_next]; exact hname

/-- Makes a node in a directory. -/
def planted (now : ℕ) (dir : Ref) (name : String) (held : Held) (heap : Heap) : Heap :=
  (heap.grown (.fresh now name held)).adopt now dir heap.next

section Planted

variable {held : Held} (h : heap.Shows tree) (hat : heap.at? seen = some dir)
  (hfree : heap.child? dir name = none)

include h hat hfree

theorem child?_grown (now : ℕ) (held : Held) :
    (heap.grown (.fresh now name held)).child? dir
      ((heap.grown (.fresh now name held)).cell heap.next).name = none := by
  have hlt := h.linked.below_lt h.linked.root_lt hat
  have hcell := (extends_grown heap (.fresh now name held)).cell_eq dir hlt
  rw [cell_grown_next, child?, children_congr (congrArg Cell.held hcell)]
  exact hfree

variable (hdir : heap.isDir dir = true) (hname : Edit.isName name) (hsprout : Sprout now held node)

include hdir hname hsprout

/-- **A node that is made in a directory shows as a new one that is pushed**, at its path, and all
else stays at its path. -/
theorem Shows.planted :
    (heap.planted now dir name held).Shows (tree.amend seen (.relisted now (·.push name node))) ∧
      (heap.planted now dir name held).at? (seen ++ [name]) = some heap.next ∧
      heap.Keeps (heap.planted now dir name held) := by
  have hextends := extends_grown heap (.fresh now name held)
  have hlinked := hsprout.linked_grown h.linked name
  have hshows := hextends.shows h hlinked
  have hpaths := hextends.at?_eq h.linked
  have hseen := (hpaths seen).trans hat
  have hcell := hextends.cell_eq dir (h.linked.below_lt h.linked.root_lt hat)
  have hgrown := (isDir_congr (congrArg Cell.held hcell)).trans hdir
  have hloose := loose_grown h.linked hname now held
  have hcalled : ((heap.grown (.fresh now name held)).cell heap.next).name = name :=
    congrArg Cell.name cell_grown_next
  have hfree := child?_grown h hat hfree now held
  refine ⟨?_, ?_, ?_⟩
  · have hadopt := hshows.adopt hseen hgrown hloose now hfree (hsprout.looks cell_grown_next).2
    rwa [hcalled] at hadopt
  · have hadopt := hshows.at?_adopt hseen hgrown hloose now
    rwa [hcalled] at hadopt
  · intro path ref href
    exact hshows.keeps_adopt hseen hgrown hloose now hfree path ref ((hpaths path).trans href)

end Planted

section Rename

/-- A node with another name keeps the rest. -/
theorem cell_rename (name : String) (other : Ref) :
    ((heap.alter ref fun cell => { cell with name }).cell other).held = (heap.cell other).held ∧
      ((heap.alter ref fun cell => { cell with name }).cell other).stamps =
        (heap.cell other).stamps := by
  by_cases hother : other = ref
  · rw [hother, cell_alter_self]
    exact ⟨rfl, rfl⟩
  · rw [cell_alter_of_ne hother]
    exact ⟨rfl, rfl⟩

theorem below_rename (name : String) (path : Path) (other : Ref) :
    (heap.alter ref fun cell => { cell with name }).below path other = heap.below path other :=
  below_of_children (fun other => children_congr (cell_rename name other).1) path other

theorem looks_rename (name : String) (hlooks : heap.Looks other node) :
    (heap.alter ref fun cell => { cell with name }).Looks other node := by
  intro path
  rw [below_rename, ← hlooks path]
  exact congrArg (Option.map · _) (funext fun found =>
    surface_congr (cell_rename name found).1 (cell_rename name found).2)

/-- A loose node may be given another name. -/
theorem Linked.rename (h : heap.Linked) (hloose : heap.Loose ref) (name : String) :
    (heap.alter ref fun cell => { cell with name }).Linked := by
  refine h.alter (isDir_congr (cell_rename name ref).1) (children_congr (cell_rename name ref).1)
    fun href => ?_
  rcases href with rfl | hparent
  · exact absurd rfl hloose.ne_root
  · exact absurd hloose.parent hparent

theorem Loose.rename (h : heap.Loose ref) (hname : Edit.isName name) :
    (heap.alter ref fun cell => { cell with name }).Loose ref where
  parent := by rw [cell_alter_self]; exact h.parent
  ne_root := h.ne_root
  lt := h.lt
  isName := by rw [cell_alter_self]; exact hname

end Rename

end Heap
end Shellbox
