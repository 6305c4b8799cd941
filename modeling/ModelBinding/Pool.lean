/-!
# Pools

A search that must not visit anything twice keeps a pool of what it has not visited
yet, and takes from it. What bounds the search is that the pool shrinks.
-/

namespace ModelBinding.Pool

/-- The pool with one thing taken out, in all its occurrences. -/
def without {α : Type} [DecidableEq α] (x : α) (pool : List α) : List α := pool.filter (· ≠ x)

variable {α : Type} [DecidableEq α]

/-- What is left is all that is not the thing taken. -/
@[simp] theorem mem_without {x y : α} {pool : List α} : y ∈ without x pool ↔ y ∈ pool ∧ y ≠ x := by
  simp [without]

/-- Taking out something that is there makes the pool smaller. -/
theorem length_without_lt {x : α} {pool : List α} (h : x ∈ pool) :
    (without x pool).length < pool.length := by
  refine Nat.lt_of_le_of_ne (List.length_filter_le _ _) fun heq => ?_
  have hall := List.length_filter_eq_length_iff.1 heq x h
  simp at hall

end ModelBinding.Pool
