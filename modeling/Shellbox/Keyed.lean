/-!
# Lists with one value per key

A list of pairs in the order in which their keys first came in. Putting a value under a key that
is there already keeps the place of the key and replaces its value.
-/

namespace Shellbox.Keyed

variable {K V : Type} [DecidableEq K]

/-- Puts a value under a key. -/
def put (key : K) (value : V) : List (K × V) → List (K × V)
  | [] => [(key, value)]
  | (k, v) :: rest => if k = key then (k, value) :: rest else (k, v) :: put key value rest

/-- Puts the pairs of a list one after the other. -/
def putAll (pairs : List (K × V)) (into : List (K × V)) : List (K × V) :=
  pairs.foldl (fun done (key, value) => put key value done) into

/-- The pairs of a list, with one value per key: the last one, in the place of the first. -/
def ofList (pairs : List (K × V)) : List (K × V) := putAll pairs []

/-- The keys in order. -/
def keys (pairs : List (K × V)) : List K := pairs.map Prod.fst

/-- After putting a value under a key, it is found there, and nothing else has changed. -/
theorem lookup_put (key k : K) (value : V) (pairs : List (K × V)) :
    (put key value pairs).lookup k = if k = key then some value else pairs.lookup k := by
  induction pairs with
  | nil =>
    by_cases h : k = key
    · simp [put, h]
    · simp [put, List.lookup_cons, h, beq_eq_false_iff_ne.2 h]
  | cons pair rest ih =>
    obtain ⟨k', v'⟩ := pair
    by_cases hk : k' = key
    · subst hk
      by_cases h : k = k'
      · simp [put, h]
      · simp [put, List.lookup_cons, h, beq_eq_false_iff_ne.2 h]
    · by_cases h : k = k'
      · subst h
        simp [put, hk]
      · simp only [put, hk, if_false, List.lookup_cons, beq_eq_false_iff_ne.2 h]
        exact ih

end Shellbox.Keyed
