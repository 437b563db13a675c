import Shellbox.Proofs.HeapRuns
/-!
# Copies of linked nodes

`cloneNode` makes a new node for every node that it meets, so that the nodes from before are as they
were. The copy of a directory is made empty, and the copies of its children are put into it one after
the other: what is copied so far is `HeapEdit.Cloned`, and every child adds its own copy to it
(`HeapEdit.Cloned.adopt`). In the end the copy looks like the original, made anew
(`HeapEdit.exists_run_cloneNode`).

The depth of the nodes is the measure of the recursion. On a way down from the root no node is met
twice, so the number of nodes is enough fuel.
-/

namespace Shellbox

/-! ### Children pushed one after the other -/

namespace Entries

/-- Pushes children behind the others. -/
def pushAll (done : Entries) (children : List (String × Node)) : Entries :=
  children.foldl (fun done child => done.push child.1 child.2) done

theorem toList_pushAll (done : Entries) (children : List (String × Node)) :
    (done.pushAll children).toList = done.toList ++ children := by
  induction children generalizing done with
  | nil => exact (List.append_nil _).symm
  | cons child children ih =>
    rw [pushAll, List.foldl_cons, ← pushAll, ih, toList_push, List.append_assoc]
    rfl

/-- A list of children is known by its names and nodes. -/
theorem toList_injective {first second : Entries} (h : first.toList = second.toList) :
    first = second := by
  induction first using consInduction generalizing second with
  | nil => cases second <;> first | rfl | cases h
  | cons name node rest ih =>
    rw [toList_cons] at h
    cases second with
    | nil => cases h
    | file other stamps text more =>
      obtain ⟨hchild, hrest⟩ := List.cons.inj h
      cases hchild
      rw [ih hrest]
      rfl
    | dir other stamps inside more =>
      obtain ⟨hchild, hrest⟩ := List.cons.inj h
      cases hchild
      rw [ih hrest]
      rfl

theorem toList_renewed (now : ℕ) (entries : Entries) :
    (entries.renewed now).toList = entries.toList.map fun child => (child.1, child.2.renewed now) := by
  induction entries using consInduction with
  | nil => rfl
  | cons name node rest ih => rw [renewed_cons, toList_cons, toList_cons, ih, List.map_cons]

end Entries

namespace HeapEdit

variable {heap heap' heap'' : Heap} {ref copy child : Ref} {name key : String} {now fuel : ℕ}
  {node : Node} {done inside : Entries}

/-- A new node in no directory, with all below it, that looks like a given one. The nodes from before
are as they were. -/
structure Cloned (before : Heap) (name : String) (node : Node) (copy : Ref) (after : Heap) : Prop where
  linked : after.Linked
  kept : before.Extends after
  new : before.next ≤ copy
  lt : copy < after.next
  parent : (after.cell copy).parent = none
  called : (after.cell copy).name = name
  looks : after.Looks copy node

/-- A new node with nothing below it. -/
theorem cloned_grown {held : Held} (hlinked : heap.Linked) (hsprout : Heap.Sprout now held node) :
    Cloned heap name node heap.next (heap.grown (.fresh now name held)) where
  linked := hsprout.linked_grown hlinked name
  kept := Heap.extends_grown heap _
  new := le_rfl
  lt := Nat.lt_succ_self heap.next
  parent := congrArg Cell.parent Heap.cell_grown_next
  called := congrArg Cell.name Heap.cell_grown_next
  looks := (hsprout.looks Heap.cell_grown_next).2

namespace Cloned

theorem loose (h : Cloned heap name node copy heap') (hlinked : heap.Linked)
    (hname : Edit.isName name) : heap'.Loose copy where
  parent := h.parent
  ne_root := (hlinked.root_lt.trans_le h.new).ne'
  lt := h.lt
  isName := by rw [h.called]; exact hname

/-- A directory that is copied so far has no other child under a name than those of the copies. -/
theorem child?_eq_none (h : Cloned heap name (.dir (.fresh now) done) copy heap')
    (hchild : Cloned heap' key node child heap'') (hfree : key ∉ done.names) :
    heap''.child? copy (heap''.cell child).name = none := by
  have hlooks := hchild.kept.looks h.linked h.lt h.looks
  rwa [hchild.called, Heap.child?, Keyed.lookup_eq_none_iff, ← hlooks.names_eq]

/-- A copy of a child is put into the copy of a directory. -/
theorem adopt (h : Cloned heap name (.dir (.fresh now) done) copy heap')
    (hchild : Cloned heap' key node child heap'') (hkey : Edit.isName key) (hfree : key ∉ done.names) :
    Cloned heap name (.dir (.fresh now) (done.push key node)) copy (heap''.adopt now copy child) := by
  have hlooks := hchild.kept.looks h.linked h.lt h.looks
  have hcell := hchild.kept.cell_eq copy h.lt
  have hparent := (congrArg Cell.parent hcell).trans h.parent
  have hne : copy ≠ child := (h.lt.trans_le hchild.new).ne
  have hbelow : ∀ path, heap''.below path child ≠ some copy := by
    intro path hpath
    obtain rfl := hchild.linked.eq_nil_of_below hparent hpath
    exact hne (Option.some.inj hpath).symm
  have hself : ∀ key rest, heap''.below (key :: rest) copy ≠ some copy := fun key rest hpath =>
    List.cons_ne_nil key rest (hchild.linked.eq_nil_of_below hparent hpath)
  have hloose := hchild.loose h.linked hkey
  refine ⟨hchild.linked.adopt hloose hne hlooks.isDir_of_dir now, ?_, h.new,
    h.lt.trans_le hchild.kept.next_le, ?_, ?_, ?_⟩
  · exact (h.kept.trans hchild.kept).adopt h.new (h.new.trans (h.lt.trans_le hchild.new).le)
  · exact (Heap.parent_relink_of_ne hne hne).trans hparent
  · exact (Heap.name_relink hne copy).trans ((congrArg Cell.name hcell).trans h.called)
  · have hadopt := hlooks.adopt hchild.looks hself hbelow (h.child?_eq_none hchild hfree) now
    rwa [hchild.called] at hadopt

end Cloned

/-- There is as much fuel for a node when there are more nodes. -/
theorem fathomed_of_extends (h : heap.Fathomed fuel ref node) (hlinked : heap.Linked)
    (hkept : heap.Extends heap') : heap'.Fathomed fuel ref node where
  lt := h.lt.trans_le hkept.next_le
  looks := hkept.looks hlinked h.lt h.looks
  depth path found hpath := h.depth path found (by rwa [hkept.below_eq hlinked h.lt] at hpath)

/-- **Copies of children are put into a directory one after the other.** -/
theorem exists_run_cloneAll {children : List (String × Ref)} {entries : List (String × Node)}
    (hclone : ∀ heap ref node, heap.Linked → heap.Fathomed fuel ref node → ∃ copy heap',
      (cloneNode now fuel ref).run.run heap = (.ok copy, heap') ∧
        Cloned heap (heap.cell ref).name (node.renewed now) copy heap')
    (hlinked : heap.Linked)
    (hchildren : List.Forall₂ (heap.FathomedChild fuel ref) children entries)
    (hnodup : (done.names ++ entries.map Prod.fst).Nodup)
    (h : Cloned heap name (.dir (.fresh now) done) copy heap') :
    ∃ heap'', (children.forM fun child => do
        addChild now copy (← cloneNode now fuel child.2)).run.run heap' = (.ok (), heap'') ∧
      Cloned heap name (.dir (.fresh now) (done.pushAll (entries.map fun entry =>
        (entry.1, entry.2.renewed now)))) copy heap'' := by
  induction hchildren generalizing heap' done with
  | nil => exact ⟨heap', rfl, h⟩
  | @cons child entry children entries hfirst hrest ih =>
    obtain ⟨hfound, hkey, hcopied⟩ := hfirst
    obtain ⟨hcalled, -, hproper, -⟩ := hlinked.of_child? hfound
    obtain ⟨new, heap₁, hrun, hnew⟩ := hclone heap' child.2 entry.2 h.linked
      (fathomed_of_extends hcopied hlinked h.kept)
    rw [h.kept.cell_eq child.2 hcopied.lt, hcalled, hkey] at hnew
    have hfree : entry.1 ∉ done.names := fun hmem =>
      (List.nodup_append.1 hnodup).2.2 _ hmem _ List.mem_cons_self rfl
    rw [List.map_cons, List.append_cons, ← Entries.names_push entry.1 (entry.2.renewed now)] at hnodup
    obtain ⟨heap₂, hrest, hcloned⟩ := ih hnodup (h.adopt hnew (hkey ▸ hproper) hfree)
    refine ⟨heap₂, ?_, hcloned⟩
    have hstep : (cloneNode now fuel child.2 >>= fun new => addChild now copy new).run.run heap' =
        (.ok (), heap₁.adopt now copy new) := by
      rw [run_bind_of_ok hrun, run_addChild (h.child?_eq_none hnew hfree)]
    rw [List.forM, run_bind_of_ok hstep, hrest]

/-- **A copy of linked nodes looks like the nodes, made anew.** -/
theorem exists_run_cloneNode (hlinked : heap.Linked) (h : heap.Fathomed fuel ref node) (now : ℕ) :
    ∃ copy heap', (cloneNode now fuel ref).run.run heap = (.ok copy, heap') ∧
      Cloned heap (heap.cell ref).name (node.renewed now) copy heap' := by
  induction fuel generalizing heap ref node with
  | zero => exact absurd (h.depth [] ref rfl) (Nat.not_lt_zero _)
  | succ fuel ih =>
    rw [cloneNode, run_bind_of_ok (run_get heap)]
    dsimp only
    rcases h.looks.cases with ⟨text, hheld, rfl⟩ | ⟨children, inside, hheld, rfl, hnames⟩
    · rw [hheld]
      exact ⟨heap.next, _, rfl, cloned_grown hlinked (.file text)⟩
    · have hchildren : heap.children ref = children := by rw [Heap.children, hheld]
      have hnodup : (Entries.nil.names ++ inside.toList.map Prod.fst).Nodup := by
        rw [← Entries.names, hnames, ← hchildren]
        exact hlinked.nodup ref
      have hmake : (make now (heap.cell ref).name (.dir [])).run.run heap =
          (.ok heap.next, heap.grown (.fresh now (heap.cell ref).name (.dir []))) := rfl
      obtain ⟨heap', hrun, hcloned⟩ := exists_run_cloneAll (fun heap ref node => ih) hlinked
        (h.children hlinked) hnodup (cloned_grown hlinked .dir)
      have hall : Entries.nil.pushAll (inside.toList.map fun entry =>
          (entry.1, entry.2.renewed now)) = inside.renewed now := by
        apply Entries.toList_injective
        rw [Entries.toList_pushAll, Entries.toList_renewed]
        rfl
      rw [hall] at hcloned
      rw [hchildren] at hrun
      rw [hheld]
      refine ⟨heap.next, heap', ?_, hcloned⟩
      dsimp only
      rw [run_bind_of_ok hmake, run_bind_of_ok hrun]
      rfl

end HeapEdit
end Shellbox
