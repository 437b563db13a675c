import Mathlib.Data.List.Nodup
import Shellbox.Keyed
/-!
# Lists with one value per key, in order

A value that is put under a key keeps the order of the other keys, and so does taking the pair of a
key out. Where no key is there twice, a look-up finds exactly the values that are there
(`Keyed.lookup_eq_some_iff`), and what is taken out is found no longer (`Keyed.lookup_erase`).
-/

namespace Shellbox.Keyed

variable {K V : Type} [DecidableEq K] {key k : K} {value v : V} {pairs : List (K × V)}

/-! ### Putting -/

/-- What is there after a value was put under a key was there before, or it is the new pair. -/
theorem mem_of_mem_put {pair : K × V} (h : pair ∈ put key value pairs) :
    pair = (key, value) ∨ pair ∈ pairs := by
  induction pairs with
  | nil => exact Or.inl (List.mem_singleton.1 h)
  | cons first rest ih =>
    rw [put] at h
    split at h
    · next hkey =>
      rcases List.mem_cons.1 h with rfl | h
      · exact Or.inl (by rw [hkey])
      · exact Or.inr (List.mem_cons_of_mem _ h)
    · rcases List.mem_cons.1 h with rfl | h
      · exact Or.inr List.mem_cons_self
      · exact (ih h).imp id (List.mem_cons_of_mem _)

/-- A new key comes behind the others, and a key that is there keeps its place. -/
theorem keys_put (key : K) (value : V) (pairs : List (K × V)) :
    keys (put key value pairs) = if key ∈ keys pairs then keys pairs else keys pairs ++ [key] := by
  induction pairs with
  | nil => simp [put, keys]
  | cons first rest ih =>
    rw [put]
    by_cases hkey : first.1 = key
    · simp [keys, hkey]
    · have hmem : key ∈ keys (first :: rest) ↔ key ∈ keys rest := by
        simp [keys, Ne.symm hkey]
      rw [if_neg hkey, keys, List.map_cons, ← keys, ih]
      by_cases hrest : key ∈ keys rest
      · rw [if_pos hrest, if_pos (hmem.2 hrest)]
        rfl
      · rw [if_neg hrest, if_neg (mt hmem.1 hrest)]
        rfl

theorem nodup_keys_put (h : (keys pairs).Nodup) (key : K) (value : V) :
    (keys (put key value pairs)).Nodup := by
  rw [keys_put]
  split
  · exact h
  · next hnew => exact List.nodup_append_comm.1 (List.nodup_cons.2 ⟨hnew, h⟩)

/-- When no key is there twice, a look-up finds exactly the values that are there. -/
theorem lookup_eq_some_iff (h : (keys pairs).Nodup) :
    pairs.lookup k = some v ↔ (k, v) ∈ pairs := by
  induction pairs with
  | nil => simp
  | cons first rest ih =>
    obtain ⟨hfirst, hrest⟩ := List.nodup_cons.1 h
    rw [List.lookup_cons, List.mem_cons]
    by_cases hk : k = first.1
    · subst hk
      have hnot : (first.1, v) ∉ rest := fun hmem => hfirst (List.mem_map.2 ⟨_, hmem, rfl⟩)
      simp [hnot, Prod.ext_iff, eq_comm]
    · simp only [beq_eq_false_iff_ne.2 hk, Prod.ext_iff, hk, false_and, false_or]
      exact ih hrest

/-- A value under a key that is not there yet is put behind the others. -/
theorem put_of_nodup {before after : List (K × V)}
    (h : (keys (before ++ (key, value) :: after)).Nodup) :
    put key value before = before ++ [(key, value)] := by
  induction before with
  | nil => rfl
  | cons pair before ih =>
    rw [List.cons_append, keys, List.map_cons, List.nodup_cons] at h
    rw [put, if_neg, ih h.2, List.cons_append]
    rintro rfl
    exact h.1 (by simp)

/-! ### Looking up -/

/-- What a look-up finds is there under its key. -/
theorem mem_of_lookup (h : pairs.lookup k = some v) : (k, v) ∈ pairs := by
  obtain ⟨before, behind, rfl, -⟩ := List.lookup_eq_some_iff.1 h
  exact List.mem_append_right _ List.mem_cons_self

/-- A key that is there finds something. -/
theorem exists_lookup_of_mem_keys (h : k ∈ keys pairs) : ∃ v, pairs.lookup k = some v := by
  obtain ⟨pair, hpair, rfl⟩ := List.mem_map.1 h
  by_contra hnone
  have hmissing := List.lookup_eq_none_iff.1
    (Option.eq_none_iff_forall_ne_some.2 fun v hv => hnone ⟨v, hv⟩) pair hpair
  simp at hmissing

theorem lookup_eq_none_iff : pairs.lookup k = none ↔ k ∉ keys pairs := by
  constructor
  · intro hnone hmem
    obtain ⟨v, hv⟩ := exists_lookup_of_mem_keys hmem
    rw [hnone] at hv
    cases hv
  · intro hnew
    by_contra hsome
    obtain ⟨v, hv⟩ := Option.ne_none_iff_exists'.1 hsome
    exact hnew (List.mem_map_of_mem (mem_of_lookup hv))

/-! ### Taking out -/

/-- The keys without the one that was taken out, in their order. -/
theorem keys_erase (key : K) (pairs : List (K × V)) :
    keys (pairs.eraseP fun pair => pair.1 = key) = (keys pairs).erase key := by
  rw [keys, keys, List.erase_eq_eraseP', List.eraseP_map]
  rfl

/-- A key that was taken out is found no longer, and nothing else has changed. -/
theorem lookup_erase (h : (keys pairs).Nodup) (key k : K) :
    (pairs.eraseP fun pair => pair.1 = key).lookup k =
      if k = key then none else pairs.lookup k := by
  induction pairs with
  | nil => simp
  | cons first rest ih =>
    obtain ⟨hfirst, hrest⟩ := List.nodup_cons.1 h
    by_cases hkey : first.1 = key
    · subst hkey
      rw [List.eraseP_cons_of_pos (by simp), List.lookup_cons]
      by_cases hk : k = first.1
      · rw [if_pos hk, hk]
        exact lookup_eq_none_iff.2 hfirst
      · rw [if_neg hk, beq_eq_false_iff_ne.2 hk]
    · rw [List.eraseP_cons_of_neg (by simpa using hkey), List.lookup_cons, List.lookup_cons, ih hrest]
      by_cases hk : k = first.1
      · subst hk
        simp [hkey]
      · rw [beq_eq_false_iff_ne.2 hk]

end Shellbox.Keyed
