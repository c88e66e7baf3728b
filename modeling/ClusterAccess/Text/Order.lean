/-
  ClusterAccess.Text.Order

  Lists in the code point order of a text key, with one element a key.
  `sortDistinctBy` is the canonical form that rules and answers are given in:
  it forgets order and repetition and nothing else.
-/

namespace ClusterAccess.Text

variable {α : Type _}

/-- Puts `x` into a list that increases by `key`; an element with its key stays as it is. -/
def insertBy (key : α → String) (x : α) : List α → List α
  | [] => [x]
  | y :: ys =>
    if key x < key y then x :: y :: ys
    else if key x = key y then y :: ys
    else y :: insertBy key x ys

/-- The elements of a list, increasing by `key`, one for each key. -/
def sortDistinctBy (key : α → String) : List α → List α
  | [] => []
  | x :: xs => insertBy key x (sortDistinctBy key xs)

/-- The texts of a list in code point order, each once. -/
def sortDistinct (texts : List String) : List String :=
  sortDistinctBy id texts

/-! ## Small facts -/

theorem insertBy_ne_nil (key : α → String) (x : α) (xs : List α) : insertBy key x xs ≠ [] := by
  cases xs with
  | nil => simp [insertBy]
  | cons y ys => simp only [insertBy]; split <;> (try split) <;> simp

theorem sortDistinctBy_eq_nil_iff (key : α → String) (xs : List α) :
    sortDistinctBy key xs = [] ↔ xs = [] := by
  cases xs with
  | nil => simp [sortDistinctBy]
  | cons x xs => simp [sortDistinctBy, insertBy_ne_nil]

theorem mem_insertBy_id {x y : String} {xs : List String} :
    x ∈ insertBy id y xs ↔ x = y ∨ x ∈ xs := by
  induction xs with
  | nil => simp [insertBy]
  | cons z zs ih =>
    simp only [insertBy, id]
    split
    · simp
    · split
      next h => simp [h]
      · simp only [List.mem_cons, ih]
        exact or_left_comm

/-- Sorting keeps every text and adds none. -/
theorem mem_sortDistinct {x : String} {xs : List String} : x ∈ sortDistinct xs ↔ x ∈ xs := by
  unfold sortDistinct
  induction xs with
  | nil => simp [sortDistinctBy]
  | cons y ys ih => simp only [sortDistinctBy, mem_insertBy_id, ih, List.mem_cons]

end ClusterAccess.Text
