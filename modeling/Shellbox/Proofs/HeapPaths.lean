import Mathlib.Data.Finset.Card
import Mathlib.Data.Finset.Range
import Shellbox.FileTree.Heap
import Shellbox.Proofs.KeyedPairs
import Shellbox.Proofs.PathText
/-!
# The path that a node climbs

A path leads from the root down to a node, and the node climbs back up to the root. Nothing makes
the two agree but the links: a child must be called what its directory calls it, and must refer back
to that directory. `Heap.Linked` says this of every directory, whether it can be reached from the
root or not.

Then a node that a path leads to climbs that path (`Heap.Linked.climb_eq`), so no two paths lead to
one node, and the nodes on the way down a path are all different. There are no more of them than
numbers that were given to nodes (`Heap.Linked.length_lt`), which is why there is always enough fuel
for the way up (`Heap.Linked.pathOf_eq`).
-/

namespace Shellbox
namespace Heap

/-! ### Down -/

/-- The node that a path leads to from a node, along the keys. -/
def below (heap : Heap) : Path → Ref → Option Ref
  | [], ref => some ref
  | key :: rest, ref => (heap.child? ref key).bind (heap.below rest)

/-- The node that a path leads to from the root. -/
def at? (heap : Heap) (path : Path) : Option Ref := heap.below path root

variable {heap heap' : Heap} {ref dir child found : Ref} {key : String} {path other rest : Path}

@[simp] theorem below_nil (heap : Heap) (ref : Ref) : heap.below [] ref = some ref := rfl

@[simp] theorem at?_nil (heap : Heap) : heap.at? [] = some root := rfl

theorem below_cons (heap : Heap) (key : String) (rest : Path) (ref : Ref) :
    heap.below (key :: rest) ref = (heap.child? ref key).bind (heap.below rest) := rfl

theorem below_append (heap : Heap) (path rest : Path) (ref : Ref) :
    heap.below (path ++ rest) ref = (heap.below path ref).bind (heap.below rest) := by
  induction path generalizing ref with
  | nil => rfl
  | cons key path ih =>
    rw [List.cons_append, below_cons, below_cons, Option.bind_assoc]
    exact congrArg _ (funext ih)

theorem at?_append (heap : Heap) (path rest : Path) :
    heap.at? (path ++ rest) = (heap.at? path).bind (heap.below rest) :=
  heap.below_append path rest root

theorem below_singleton (heap : Heap) (key : String) (ref : Ref) :
    heap.below [key] ref = heap.child? ref key := by
  rw [below_cons]
  cases heap.child? ref key <;> rfl

/-- What has a name is the child under this name of what is above it. -/
theorem at?_concat (hat : heap.at? (path ++ [key]) = some ref) :
    ∃ dir, heap.at? path = some dir ∧ heap.child? dir key = some ref := by
  rw [at?_append] at hat
  obtain ⟨dir, hdir, hkey⟩ := Option.bind_eq_some_iff.1 hat
  exact ⟨dir, hdir, by rwa [below_singleton] at hkey⟩

theorem at?_concat_of_child? (hat : heap.at? path = some dir) (hchild : heap.child? dir key = some ref) :
    heap.at? (path ++ [key]) = some ref := by
  rw [at?_append, hat, Option.bind_some, below_singleton, hchild]

/-- Only a directory has children. -/
theorem isDir_of_child? (h : heap.child? ref key = some child) : heap.isDir ref = true := by
  unfold child? children at h
  unfold isDir
  cases hheld : (heap.cell ref).held with
  | dir children => rfl
  | file text => rw [hheld] at h; cases h

/-- Going down depends on the children that are met on the way. -/
theorem below_congr (S : Ref → Prop) (hsame : ∀ ref, S ref → heap'.children ref = heap.children ref)
    (hclosed : ∀ ref key child, S ref → heap.child? ref key = some child → S child) (href : S ref)
    (path : Path) : heap'.below path ref = heap.below path ref := by
  induction path generalizing ref with
  | nil => rfl
  | cons key rest ih =>
    have hchild : heap'.child? ref key = heap.child? ref key := by
      rw [child?, child?, hsame ref href]
    rw [below_cons, below_cons, hchild]
    cases hkey : heap.child? ref key with
    | none => rfl
    | some child => exact ih (hclosed ref key child href hkey)

/-- Where only what stands under one key in one directory has changed, a path that does not go
through it leads where it led. -/
theorem below_eq_of_other (hdirs : ∀ ref, ref ≠ dir → heap'.children ref = heap.children ref)
    (hkeys : ∀ other, other ≠ key → heap'.child? dir other = heap.child? dir other)
    (hpath : ∀ front rest, path = front ++ key :: rest → heap.below front ref ≠ some dir) :
    heap'.below path ref = heap.below path ref := by
  induction path generalizing ref with
  | nil => rfl
  | cons first rest ih =>
    have hchild : heap'.child? ref first = heap.child? ref first := by
      by_cases href : ref = dir
      · subst href
        refine hkeys first fun hfirst => ?_
        exact hpath [] rest (by rw [hfirst, List.nil_append]) rfl
      · rw [child?, child?, hdirs ref href]
    rw [below_cons, below_cons, hchild]
    cases hfirst : heap.child? ref first with
    | none => rfl
    | some child =>
      refine ih fun front further hrest => ?_
      have hfront := hpath (first :: front) further (by rw [hrest, List.cons_append])
      rwa [below_cons, hfirst] at hfront

/-! ### Links -/

/-- The links of nodes agree with each other. -/
structure Linked (heap : Heap) : Prop where
  /-- The root is a directory without a name that is in no directory. -/
  root_name : (heap.cell root).name = ""
  root_parent : (heap.cell root).parent = none
  root_isDir : heap.isDir root = true
  root_lt : root < heap.next
  /-- No directory has two children under one key. -/
  nodup : ∀ dir, (Keyed.keys (heap.children dir)).Nodup
  /-- A child has been given a number, it is called by its key, which is a proper name, and it
  refers back to its directory. -/
  child : ∀ dir key child, (key, child) ∈ heap.children dir →
    (heap.cell child).name = key ∧ (heap.cell child).parent = some dir ∧ Edit.isName key ∧
      child < heap.next

namespace Linked

theorem child?_eq_some_iff (h : heap.Linked) :
    heap.child? dir key = some child ↔ (key, child) ∈ heap.children dir :=
  Keyed.lookup_eq_some_iff (h.nodup dir)

theorem of_child? (h : heap.Linked) (hchild : heap.child? dir key = some child) :
    (heap.cell child).name = key ∧ (heap.cell child).parent = some dir ∧ Edit.isName key ∧
      child < heap.next :=
  h.child dir key child (h.child?_eq_some_iff.1 hchild)

/-- A node that is in no directory is the child of none. -/
theorem child?_ne_of_parent_eq_none (h : heap.Linked) (hparent : (heap.cell child).parent = none) :
    heap.child? dir key ≠ some child := by
  intro hchild
  rw [(h.of_child? hchild).2.1] at hparent
  cases hparent

/-- A path that leads to a node consists of proper names. -/
theorem isName_of_below (h : heap.Linked) (hat : heap.below path ref = some found) :
    ∀ name ∈ path, Edit.isName name := by
  induction path generalizing ref with
  | nil => exact fun _ hmem => absurd hmem List.not_mem_nil
  | cons key rest ih =>
    obtain ⟨child, hchild, hrest⟩ := Option.bind_eq_some_iff.1 hat
    exact List.forall_mem_cons.2 ⟨(h.of_child? hchild).2.2.1, ih hrest⟩

/-- What is met on the way down has been given a number. -/
theorem below_lt (h : heap.Linked) (href : ref < heap.next)
    (hat : heap.below path ref = some found) : found < heap.next := by
  induction path generalizing ref with
  | nil => exact Option.some.inj hat ▸ href
  | cons key rest ih =>
    obtain ⟨child, hchild, hrest⟩ := Option.bind_eq_some_iff.1 hat
    exact ih (h.of_child? hchild).2.2.2 hrest

/-- **A node climbs the path that leads to it**, if there is fuel for each of its names. -/
theorem climb_eq (h : heap.Linked) {fuel : ℕ} (hfuel : path.length ≤ fuel)
    (hat : heap.at? path = some ref) : heap.climb fuel ref = path := by
  induction path using List.reverseRecOn generalizing ref fuel with
  | nil =>
    obtain rfl := Option.some.inj hat
    cases fuel with
    | zero => rfl
    | succ fuel => rw [climb, h.root_parent]
  | append_singleton front name ih =>
    obtain ⟨dir, hdir, hname⟩ := at?_concat hat
    obtain ⟨hcalled, hparent, -, -⟩ := h.of_child? hname
    rw [List.length_append, List.length_singleton] at hfuel
    obtain ⟨left, rfl⟩ := Nat.exists_eq_add_of_le' (show 1 ≤ fuel by omega)
    rw [climb, hparent, hcalled]
    exact congrArg (· ++ [name]) (ih (by omega) hdir)

/-- No two paths lead to one node. -/
theorem path_unique (h : heap.Linked) (hat : heap.at? path = some ref)
    (hother : heap.at? other = some ref) : path = other := by
  have hfuel := h.climb_eq (Nat.le_add_right path.length other.length) hat
  exact hfuel.symm.trans (h.climb_eq (Nat.le_add_left other.length path.length) hother)

/-- A path that leads to a node is shorter than the number of nodes that there have been: the nodes
on the way have different numbers. -/
theorem length_lt (h : heap.Linked) (hat : heap.at? path = some ref) : path.length < heap.next := by
  have hon : ∀ i, ∃ above, heap.at? (path.take i) = some above ∧ above < heap.next := by
    intro i
    have hsplit := heap.at?_append (path.take i) (path.drop i)
    rw [List.take_append_drop, hat] at hsplit
    obtain ⟨above, habove, -⟩ := Option.bind_eq_some_iff.1 hsplit.symm
    exact ⟨above, habove, h.below_lt h.root_lt habove⟩
  have hcard : (Finset.range (path.length + 1)).card ≤
      ((Finset.range heap.next).image some).card := by
    refine Finset.card_le_card_of_injOn (fun i => heap.at? (path.take i)) (fun i _ => ?_) ?_
    · obtain ⟨above, habove, hlt⟩ := hon i
      exact Finset.mem_coe.2 (Finset.mem_image.2 ⟨above, Finset.mem_range.2 hlt, habove.symm⟩)
    · intro i hi j hj hij
      obtain ⟨above, habove, -⟩ := hon i
      have htake := h.path_unique habove (hij.symm.trans habove)
      have hlength := congrArg List.length htake
      rw [List.length_take, List.length_take] at hlength
      rw [Finset.coe_range, Set.mem_Iio] at hi hj
      omega
  have hle := hcard.trans Finset.card_image_le
  rwa [Finset.card_range, Finset.card_range] at hle

/-- A node that a path leads to has this path. -/
theorem pathOf_eq (h : heap.Linked) (hat : heap.at? path = some ref) : heap.pathOf ref = path :=
  h.climb_eq (h.length_lt hat).le hat

end Linked

end Heap
end Shellbox
