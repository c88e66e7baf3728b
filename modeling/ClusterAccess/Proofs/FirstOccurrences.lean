/-
  ClusterAccess.Proofs.FirstOccurrences

  The first occurrences in a list, given what has been seen before: only the
  elements of what has been seen count, a list that goes on adds what is new in its
  continuation, and what is left is the list without its repetitions.
-/
import ClusterAccess.Distinct

namespace ClusterAccess

variable {α : Type _} [DecidableEq α] {seen seen' xs : List α}

/-- Of what has been seen, only the elements count, and not their order. -/
theorem firstsAfter_congr (h : ∀ a, a ∈ seen ↔ a ∈ seen') :
    firstsAfter seen xs = firstsAfter seen' xs := by
  induction xs generalizing seen seen' with
  | nil => rfl
  | cons x xs ih =>
    have hcons : ∀ a, a ∈ x :: seen ↔ a ∈ x :: seen' := fun a => by
      rw [List.mem_cons, List.mem_cons, h a]
    rw [firstsAfter, firstsAfter, ih h, ih hcons]
    simp only [h x]

theorem firstsAfter_eq_nil (h : ∀ a ∈ xs, a ∈ seen) : firstsAfter seen xs = [] :=
  List.eq_nil_iff_forall_not_mem.2 fun a ha =>
    (mem_firstsAfter.1 ha).2 (h a (mem_firstsAfter.1 ha).1)

/-- Behind a first part, its new elements have been seen too. -/
theorem firstsAfter_append (seen xs ys : List α) :
    firstsAfter seen (xs ++ ys) =
      firstsAfter seen xs ++ firstsAfter (seen ++ firstsAfter seen xs) ys := by
  induction xs generalizing seen with
  | nil => simp only [firstsAfter, List.nil_append, List.append_nil]
  | cons x xs ih =>
    rw [List.cons_append, firstsAfter, firstsAfter]
    split
    next => exact ih seen
    next =>
      rw [ih, List.cons_append]
      congr 2
      exact firstsAfter_congr fun a => by simp [or_left_comm]

/-- The first occurrences are what is left without the repetitions. -/
theorem firstsAfter_eq_eraseDups (seen xs : List α) :
    firstsAfter seen xs = (xs.filter fun x => x ∉ seen).eraseDups := by
  induction xs generalizing seen with
  | nil => rfl
  | cons x xs ih =>
    rw [firstsAfter, List.filter_cons]
    split
    next h => simp [h, ih]
    next h =>
      simp only [h, not_false_eq_true, decide_true, if_true, List.eraseDups_cons, ih,
        List.filter_filter]
      congr 3
      funext y
      by_cases hy : y = x <;> simp [hy]

end ClusterAccess
