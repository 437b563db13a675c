import Mathlib.Data.List.Basic
import Shellbox.Proofs.PathText
/-!
# Joining pieces of text

Pieces that are grouped can be joined at once or group by group, as long as no group is empty
(`Text.joined_flatten`). With pieces that are not empty, the groups that make up nothing are the empty
ones, and these may be left out (`Text.joinWith_flatten`).
-/

namespace Shellbox.Text

variable {α : Type} {sep : List α}

/-- Two groups of pieces are joined with a separator between what they make up. -/
theorem joined_append {front back : List (List α)} (hfront : front ≠ []) (hback : back ≠ []) :
    joined sep (front ++ back) = joined sep front ++ (sep ++ joined sep back) := by
  induction front with
  | nil => exact absurd rfl hfront
  | cons first others ih =>
    cases others with
    | nil =>
      obtain ⟨second, more, rfl⟩ := List.exists_cons_of_ne_nil hback
      exact joined_cons_cons sep first second more
    | cons second more =>
      rw [List.cons_append, List.cons_append, joined_cons_cons, joined_cons_cons, List.append_assoc,
        List.append_assoc, ← List.cons_append, ih (List.cons_ne_nil second more)]

/-- Groups of pieces are joined as the texts that they make up. -/
theorem joined_flatten {groups : List (List (List α))} (h : ∀ pieces ∈ groups, pieces ≠ []) :
    joined sep groups.flatten = joined sep (groups.map (joined sep)) := by
  induction groups with
  | nil => rfl
  | cons first others ih =>
    obtain ⟨hfirst, hothers⟩ := List.forall_mem_cons.1 h
    cases others with
    | nil => simp [joined]
    | cons second more =>
      have hsome : (second :: more).flatten ≠ [] := by simp [hothers second List.mem_cons_self]
      rw [List.flatten_cons, joined_append hfirst hsome, ih hothers]
      exact (joined_cons_cons ..).symm

/-- Of lists put one behind the other, a selection that drops the separator selects from each list. -/
theorem filter_joined {p : α → Bool} (hsep : sep.filter p = []) (blocks : List (List α)) :
    (joined sep blocks).filter p = blocks.flatMap (·.filter p) := by
  induction blocks with
  | nil => rfl
  | cons first others ih =>
    cases others with
    | nil => simp [joined]
    | cons second more =>
      rw [joined_cons_cons, List.filter_append, List.filter_append, hsep, List.nil_append, ih]
      exact List.flatMap_cons.symm

variable {sep : String}

/-- Pieces that are not empty make up a text unless there are none. -/
theorem joinWith_eq_empty_iff {pieces : List String} (h : ∀ piece ∈ pieces, piece ≠ "") :
    joinWith sep pieces = "" ↔ pieces = [] := by
  refine ⟨fun hempty => ?_, fun hnil => by rw [hnil]; rfl⟩
  by_contra hsome
  obtain ⟨first, rest, rfl⟩ := List.exists_cons_of_ne_nil hsome
  have hfirst : first.toList <:+: (joinWith sep (first :: rest)).toList := by
    rw [toList_joinWith]
    exact infix_joined List.mem_cons_self
  rw [hempty] at hfirst
  exact h first List.mem_cons_self (String.toList_inj.1 (List.infix_nil.1 hfirst))

/-- Groups of pieces that are not empty are joined as the texts that they make up, those of empty groups
left out. -/
theorem joinWith_flatten {groups : List (List String)}
    (h : ∀ pieces ∈ groups, ∀ piece ∈ pieces, piece ≠ "") :
    joinWith sep groups.flatten = joinWith sep ((groups.map (joinWith sep)).filter (· ≠ "")) := by
  have hleft : (groups.map (joinWith sep)).filter (· ≠ "") =
      (groups.filter (· ≠ [])).map (joinWith sep) := by
    rw [List.filter_map]
    refine congrArg _ (List.filter_congr fun pieces hpieces => ?_)
    exact decide_eq_decide.2 (not_congr (joinWith_eq_empty_iff (h pieces hpieces)))
  have hsome : ∀ pieces ∈ (groups.filter (· ≠ [])).map (List.map String.toList), pieces ≠ [] := by
    refine List.forall_mem_map.2 fun pieces hpieces => ?_
    simpa using (List.mem_filter.1 hpieces).2
  rw [hleft, ← List.flatten_filter_ne_nil, ← String.toList_inj, toList_joinWith, toList_joinWith,
    List.map_flatten, joined_flatten hsome, List.map_map, List.map_map]
  refine congrArg _ (List.map_congr_left fun pieces _ => ?_)
  exact (toList_joinWith sep pieces).symm

end Shellbox.Text
