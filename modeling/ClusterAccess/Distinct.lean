/-
  ClusterAccess.Distinct

  First occurrences: what is new in a list, given what has been seen before.
-/

namespace ClusterAccess

variable {α : Type _} [DecidableEq α]

/-- The elements of a list that have not been seen, each at its first place only. -/
def firstsAfter (seen : List α) : List α → List α
  | [] => []
  | x :: xs => if x ∈ seen then firstsAfter seen xs else x :: firstsAfter (x :: seen) xs

/-- The elements of a list, each at its first place only. -/
def firsts (xs : List α) : List α :=
  firstsAfter [] xs

/-! ## Small facts -/

theorem mem_firstsAfter {seen xs : List α} {a : α} :
    a ∈ firstsAfter seen xs ↔ a ∈ xs ∧ a ∉ seen := by
  -- What has been seen grows along the list.
  induction xs generalizing seen with
  | nil => simp [firstsAfter]
  | cons x xs ih =>
    simp only [firstsAfter]
    split
    · rename_i h
      rw [ih]
      constructor
      · rintro ⟨ha, hs⟩
        exact ⟨List.mem_cons_of_mem _ ha, hs⟩
      · rintro ⟨ha, hs⟩
        rcases List.mem_cons.1 ha with rfl | ha
        · exact absurd h hs
        · exact ⟨ha, hs⟩
    · rename_i h
      rw [List.mem_cons, ih]
      constructor
      · rintro (rfl | ⟨ha, hs⟩)
        · exact ⟨List.mem_cons_self, h⟩
        · exact ⟨List.mem_cons_of_mem _ ha, fun hm => hs (List.mem_cons_of_mem _ hm)⟩
      · rintro ⟨ha, hs⟩
        by_cases hx : a = x
        · exact .inl hx
        · refine .inr ⟨(List.mem_cons.1 ha).resolve_left hx, ?_⟩
          simp [hx, hs]

theorem mem_firsts {xs : List α} {a : α} : a ∈ firsts xs ↔ a ∈ xs := by
  simp [firsts, mem_firstsAfter]

theorem nodup_firstsAfter (seen xs : List α) : (firstsAfter seen xs).Nodup := by
  induction xs generalizing seen with
  | nil => simp [firstsAfter]
  | cons x xs ih =>
    simp only [firstsAfter]
    split
    · exact ih seen
    · simp [mem_firstsAfter, ih]

end ClusterAccess
