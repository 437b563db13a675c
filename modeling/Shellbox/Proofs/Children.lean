import Shellbox.FileTree.Entries
import Mathlib.Tactic.SplitIfs
/-!
# The children of a directory after a change

`Entries` has one constructor for a file and one for a directory in front of the other children.
For looking a child up and for changing the list of children the two play the same part:
`Entries.cons` puts either of them in front, every operation has one equation for it, and
`Entries.consInduction` is induction along the list of children alone.

The equations say what each change does to a look-up (`find?_push`, `find?_erase_of_ne`,
`find?_replace`) and which changes may be made in either order (`erase_push`, `replace_push`,
`replace_erase`, `replace_comm`). None of them asks for names that are distinct: a look-up and a
change both mean the first child of a name.
-/

namespace Shellbox
namespace Entries

/-- Induction along a list of children, whatever they are. -/
@[elab_as_elim]
theorem consInduction {motive : Entries → Prop} (nil : motive .nil)
    (cons : ∀ name node rest, motive rest → motive (cons name node rest)) :
    ∀ entries, motive entries
  | .nil => nil
  | .file name stamps text rest => cons name (.file stamps text) rest (consInduction nil cons rest)
  | .dir name stamps inside rest => cons name (.dir stamps inside) rest (consInduction nil cons rest)

variable {name other : String}

theorem find?_cons (first name : String) (node : Node) (rest : Entries) :
    (cons first node rest).find? name = if first = name then some node else rest.find? name := by
  cases node <;> rfl

theorem push_cons (first name : String) (node pushed : Node) (rest : Entries) :
    (cons first node rest).push name pushed = cons first node (rest.push name pushed) := by
  cases node <;> rfl

theorem erase_cons (first name : String) (node : Node) (rest : Entries) :
    (cons first node rest).erase name =
      if first = name then rest else cons first node (rest.erase name) := by
  cases node <;> rfl

theorem replace_cons (first name : String) (node put : Node) (rest : Entries) :
    (cons first node rest).replace name put =
      if first = name then cons first put rest else cons first node (rest.replace name put) := by
  cases node <;> rfl

theorem renewed_cons (now : Nat) (first : String) (node : Node) (rest : Entries) :
    (cons first node rest).renewed now = cons first (node.renewed now) (rest.renewed now) := by
  cases node <;> rfl

/-! ### The names in order -/

@[simp] theorem names_cons (first : String) (node : Node) (rest : Entries) :
    (cons first node rest).names = first :: rest.names := by
  rw [names, toList_cons]
  rfl

@[simp] theorem names_push (pushed : String) (node : Node) (entries : Entries) :
    (entries.push pushed node).names = entries.names ++ [pushed] := by
  simp [names]

theorem isEmpty_iff {entries : Entries} : entries.isEmpty = true ↔ entries.names = [] := by
  cases entries <;> simp [isEmpty, names, toList]

/-- Taking a child out takes its name out. -/
theorem names_erase (name : String) (entries : Entries) :
    (entries.erase name).names = entries.names.erase name := by
  rw [names, names, toList_erase, List.erase_eq_eraseP', List.eraseP_map]
  rfl

theorem names_renewed (now : Nat) (entries : Entries) :
    (entries.renewed now).names = entries.names := by
  induction entries using consInduction with
  | nil => rfl
  | cons first child rest ih => rw [renewed_cons, names_cons, names_cons, ih]

/-! ### What a look-up finds afterwards -/

/-- A pushed child is found under its name unless an earlier one has that name. -/
theorem find?_push (name pushed : String) (node : Node) (entries : Entries) :
    (entries.push pushed node).find? name =
      (entries.find? name).or (if pushed = name then some node else none) := by
  induction entries using consInduction with
  | nil => rw [push, find?_cons]; rfl
  | cons first child rest ih =>
    rw [push_cons, find?_cons, find?_cons]
    by_cases hname : first = name
    · rw [if_pos hname, if_pos hname, Option.some_or]
    · rw [if_neg hname, if_neg hname, ih]

/-- Pushing a child leaves the children of other names alone. -/
theorem find?_push_of_ne (h : name ≠ other) (node : Node) (entries : Entries) :
    (entries.push other node).find? name = entries.find? name := by
  rw [find?_push, if_neg h.symm, Option.or_none]

/-- Taking a child out leaves the children of other names alone. -/
theorem find?_erase_of_ne (h : name ≠ other) (entries : Entries) :
    (entries.erase other).find? name = entries.find? name := by
  induction entries using consInduction with
  | nil => rfl
  | cons first child rest ih =>
    rw [erase_cons, find?_cons]
    split_ifs with hother hname hname
    · exact absurd (hname.symm.trans hother) h
    · rfl
    · rw [find?_cons, if_pos hname]
    · rw [find?_cons, if_neg hname, ih]

/-- A replaced child is found in its new form, and only it is changed. -/
theorem find?_replace (name other : String) (node : Node) (entries : Entries) :
    (entries.replace other node).find? name =
      if name = other then (entries.find? name).map fun _ => node else entries.find? name := by
  induction entries using consInduction with
  | nil => simp [replace, find?]
  | cons first child rest ih =>
    rw [replace_cons, find?_cons]
    by_cases hother : first = other
    · subst hother
      rw [if_pos rfl, find?_cons]
      by_cases hname : first = name
      · simp [hname]
      · simp [hname, Ne.symm hname]
    · rw [if_neg hother, find?_cons, ih]
      by_cases hname : first = name
      · subst hname
        simp [hother]
      · simp [hname]

/-- Renewing the entries renews what a look-up finds. -/
theorem find?_renewed (now : Nat) (name : String) (entries : Entries) :
    (entries.renewed now).find? name = (entries.find? name).map (Node.renewed now) := by
  induction entries using consInduction with
  | nil => rfl
  | cons first child rest ih =>
    rw [renewed_cons, find?_cons, find?_cons, ih]
    split_ifs <;> rfl

/-! ### Changes in either order -/

/-- A child that is there before another one is pushed may be taken out before or after. -/
theorem erase_push {pushed : String} {node : Node} {entries : Entries}
    (h : (entries.find? name).isSome) :
    (entries.push pushed node).erase name = (entries.erase name).push pushed node := by
  induction entries using consInduction with
  | nil => simp [find?] at h
  | cons first child rest ih =>
    rw [push_cons, erase_cons, erase_cons]
    rw [find?_cons] at h
    split_ifs with hname
    · rfl
    · rw [if_neg hname] at h
      rw [push_cons, ih h]

/-- A child that is there before another one is pushed may be replaced before or after. -/
theorem replace_push {pushed : String} {node put : Node} {entries : Entries}
    (h : (entries.find? name).isSome) :
    (entries.push pushed node).replace name put = (entries.replace name put).push pushed node := by
  induction entries using consInduction with
  | nil => simp [find?] at h
  | cons first child rest ih =>
    rw [push_cons, replace_cons, replace_cons]
    rw [find?_cons] at h
    split_ifs with hname
    · rw [push_cons]
    · rw [if_neg hname] at h
      rw [push_cons, ih h]

/-- Only the last node put in the place of a pushed child counts. -/
theorem replace_push_same {pushed : String} {entries : Entries} (h : entries.find? pushed = none)
    (node put : Node) :
    (entries.push pushed node).replace pushed put = entries.push pushed put := by
  induction entries using consInduction with
  | nil => rw [push, push, replace_cons, if_pos rfl]
  | cons first child rest ih =>
    rw [find?_cons] at h
    split_ifs at h with hfirst
    rw [push_cons, push_cons, replace_cons, if_neg hfirst, ih h]

/-- Of two children of different names, one may be replaced and the other taken out in either
order. -/
theorem replace_erase (h : name ≠ other) (node : Node) (entries : Entries) :
    (entries.erase other).replace name node = (entries.replace name node).erase other := by
  induction entries using consInduction with
  | nil => rfl
  | cons first child rest ih =>
    rw [erase_cons, replace_cons]
    split_ifs with hother hname hname
    · exact absurd (hname.symm.trans hother) h
    · rw [erase_cons, if_pos hother]
    · rw [replace_cons, if_pos hname, erase_cons, if_neg hother]
    · rw [replace_cons, if_neg hname, erase_cons, if_neg hother, ih]

/-- Two children of different names may be replaced in either order. -/
theorem replace_comm (h : name ≠ other) (node put : Node) (entries : Entries) :
    (entries.replace other put).replace name node =
      (entries.replace name node).replace other put := by
  induction entries using consInduction with
  | nil => rfl
  | cons first child rest ih =>
    rw [replace_cons, replace_cons]
    split_ifs with hother hname hname
    · exact absurd (hname.symm.trans hother) h
    · rw [replace_cons, if_neg hname, replace_cons, if_pos hother]
    · rw [replace_cons, if_pos hname, replace_cons, if_neg hother]
    · rw [replace_cons, if_neg hname, replace_cons, if_neg hother, ih]

/-- Only the last node put in the place of a child counts. -/
theorem replace_replace (name : String) (node put : Node) (entries : Entries) :
    (entries.replace name node).replace name put = entries.replace name put := by
  induction entries using consInduction with
  | nil => rfl
  | cons first child rest ih =>
    rw [replace_cons, replace_cons]
    split_ifs with hname
    · rw [replace_cons, if_pos hname]
    · rw [replace_cons, if_neg hname, ih]

theorem renewed_push (now : Nat) (pushed : String) (node : Node) (entries : Entries) :
    (entries.push pushed node).renewed now = (entries.renewed now).push pushed (node.renewed now) := by
  induction entries using consInduction with
  | nil => rw [push, renewed_cons]; rfl
  | cons first child rest ih => rw [push_cons, renewed_cons, renewed_cons, push_cons, ih]

theorem renewed_erase (now : Nat) (name : String) (entries : Entries) :
    (entries.erase name).renewed now = (entries.renewed now).erase name := by
  induction entries using consInduction with
  | nil => rfl
  | cons first child rest ih =>
    rw [erase_cons, renewed_cons, erase_cons]
    split_ifs
    · rfl
    · rw [renewed_cons, ih]

theorem renewed_replace (now : Nat) (name : String) (node : Node) (entries : Entries) :
    (entries.replace name node).renewed now =
      (entries.renewed now).replace name (node.renewed now) := by
  induction entries using consInduction with
  | nil => rfl
  | cons first child rest ih =>
    rw [replace_cons, renewed_cons, replace_cons]
    split_ifs
    · rw [renewed_cons]
    · rw [renewed_cons, ih]

end Entries
end Shellbox
