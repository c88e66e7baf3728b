/-
  ClusterAccess.Proofs.SortedTexts

  Lists in the order of a text key: sorting keeps the elements, one for each key,
  and the keys of what comes out increase strictly.
-/
import ClusterAccess.Text.Order

namespace ClusterAccess.Text

variable {α : Type _} {key : α → String} {x y : α} {xs : List α}

/-! ## Elements -/

theorem mem_of_mem_insertBy (h : x ∈ insertBy key y xs) : x = y ∨ x ∈ xs := by
  induction xs with
  | nil => exact .inl (List.mem_singleton.1 h)
  | cons z zs ih =>
    unfold insertBy at h
    split at h
    · exact List.mem_cons.1 h
    · split at h
      · exact .inr h
      · rcases List.mem_cons.1 h with rfl | hz
        · exact .inr List.mem_cons_self
        · exact (ih hz).imp_right (List.mem_cons_of_mem z)

/-- Sorting adds no element. -/
theorem mem_of_mem_sortDistinctBy (h : x ∈ sortDistinctBy key xs) : x ∈ xs := by
  induction xs with
  | nil => exact h
  | cons y ys ih =>
    rcases mem_of_mem_insertBy h with rfl | hx
    · exact List.mem_cons_self
    · exact List.mem_cons_of_mem y (ih hx)

/-- An element that is put into a list is there by its key: an old one may stand for it. -/
theorem key_mem_insertBy (key : α → String) (x : α) (xs : List α) :
    key x ∈ (insertBy key x xs).map key := by
  induction xs with
  | nil => exact List.mem_singleton_self _
  | cons y ys ih =>
    unfold insertBy
    split
    next => exact List.mem_cons_self
    next =>
      split
      next h => exact h ▸ List.mem_cons_self
      next => exact List.mem_cons_of_mem _ ih

theorem subset_insertBy (key : α → String) (x : α) (xs : List α) : xs ⊆ insertBy key x xs := by
  induction xs with
  | nil => exact List.nil_subset _
  | cons y ys ih =>
    unfold insertBy
    split
    next => exact List.subset_cons_self x _
    next =>
      split
      next => exact List.Subset.refl _
      next => exact List.cons_subset_cons y ih

/-- Sorting drops no key. -/
theorem key_mem_sortDistinctBy (hx : x ∈ xs) : key x ∈ (sortDistinctBy key xs).map key := by
  induction xs with
  | nil => cases hx
  | cons y ys ih =>
    rcases List.mem_cons.1 hx with rfl | hx
    · exact key_mem_insertBy key x _
    · exact List.map_subset key (subset_insertBy key y _) (ih hx)

/-- Where no two elements have the same key, sorting keeps them all. -/
theorem mem_sortDistinctBy (hinj : ∀ a b, key a = key b → a = b) :
    x ∈ sortDistinctBy key xs ↔ x ∈ xs := by
  constructor
  · exact mem_of_mem_sortDistinctBy
  · intro hx
    obtain ⟨y, hy, hkey⟩ := List.mem_map.1 (key_mem_sortDistinctBy hx)
    exact hinj y x hkey ▸ hy

/-! ## Order -/

/-- Of two different texts one comes before the other. -/
theorem lt_of_not_lt {a b : String} (h : ¬ a < b) (hne : a ≠ b) : b < a :=
  Decidable.byContradiction fun hba => hne (Std.Trichotomous.trichotomous a b h hba)

theorem pairwise_insertBy (x : α) (h : xs.Pairwise fun a b => key a < key b) :
    (insertBy key x xs).Pairwise fun a b => key a < key b := by
  induction xs with
  | nil => exact List.pairwise_singleton _ _
  | cons y ys ih =>
    obtain ⟨hy, hys⟩ := List.pairwise_cons.1 h
    unfold insertBy
    split
    next hlt =>
      refine List.pairwise_cons.2 ⟨List.forall_mem_cons.2 ⟨hlt, fun z hz => ?_⟩, h⟩
      exact String.lt_trans hlt (hy z hz)
    next hlt =>
      split
      next => exact h
      next hne =>
        -- The new element stands behind the head, and the rest does so before.
        refine List.pairwise_cons.2 ⟨fun z hz => ?_, ih hys⟩
        rcases mem_of_mem_insertBy hz with rfl | hz
        · exact lt_of_not_lt hlt hne
        · exact hy z hz

/-- What is sorted increases strictly by its key. -/
theorem pairwise_sortDistinctBy (key : α → String) (xs : List α) :
    (sortDistinctBy key xs).Pairwise fun a b => key a < key b := by
  induction xs with
  | nil => exact List.Pairwise.nil
  | cons x xs ih => exact pairwise_insertBy x ih

end ClusterAccess.Text
