/-
  ClusterAccess.Proofs.GraphAnswers

  What an access graph answers, in terms of the list of grants that it was made of
  alone. The grants that let an identity do something are pairs; the answers list
  the pairs by their positions, ask whether there is one, and name those for whom
  there is one.
-/
import ClusterAccess.Proofs.GraphQueries
import ClusterAccess.Proofs.ObjectParts
import ClusterAccess.Proofs.SortedTexts
import Mathlib.Data.List.ProdSigma

namespace ClusterAccess

/-! ## Pairs of grants -/

namespace Grant

/-- A grant makes its holder a member of a role or of a cluster role. -/
def MakesMember (g : Grant) : Prop :=
  g.entitlement = "member" ∧ (g.target.kind = .role ∨ g.target.kind = .clusterRole)

instance (g : Grant) : Decidable g.MakesMember :=
  inferInstanceAs (Decidable (_ ∧ _))

theorem isMembership_iff {g : Grant} : g.isMembership ↔ g.MakesMember := by
  have hrole : g.target.kind.isRole ↔ g.target.kind = .role ∨ g.target.kind = .clusterRole := by
    cases g.target.kind <;> decide
  simp only [isMembership, MakesMember, member, Bool.and_eq_true, beq_iff_eq, hrole]

/-- Two grants, a membership and a permission, let an identity do a verb on a target. -/
def LetsDo (m p : Grant) (identity : ResourceRef) (verb : String) (target : ResourceRef) : Prop :=
  (m.MakesMember ∧ m.holder = identity) ∧
    (¬ p.MakesMember ∧ p.holder = m.target ∧ p.entitlement = verb) ∧
      p.target.covers m.confinement target

instance (m p : Grant) (identity : ResourceRef) (verb : String) (target : ResourceRef) :
    Decidable (m.LetsDo p identity verb target) :=
  inferInstanceAs (Decidable (_ ∧ _))

/-- What a member gets a permission from is a role, so the permission is one of the graph. -/
theorem letsDo_iff {m p : Grant} {identity target : ResourceRef} {verb : String} :
    m.LetsDo p identity verb target ↔
      (m.isMembership ∧ m.holder = identity) ∧
        (p.isPermission ∧ p.holder = m.target ∧ p.entitlement = verb) ∧
          p.target.covers m.confinement target := by
  have hper (hm : m.isMembership) (hholder : p.holder = m.target) :
      p.isPermission ↔ ¬ p.MakesMember := by
    have hrole : p.holder.kind.isRole := by
      rw [hholder]
      exact (Bool.and_eq_true _ _ ▸ hm : _ ∧ _).2
    simp [isPermission, hrole, ← isMembership_iff]
  simp only [LetsDo, ← isMembership_iff]
  constructor
  · rintro ⟨⟨hm, hid⟩, ⟨hp, hholder, hverb⟩, hcov⟩
    exact ⟨⟨hm, hid⟩, ⟨(hper hm hholder).2 (isMembership_iff.not.1 hp), hholder, hverb⟩, hcov⟩
  · rintro ⟨⟨hm, hid⟩, ⟨hp, hholder, hverb⟩, hcov⟩
    exact ⟨⟨hm, hid⟩, ⟨isMembership_iff.not.2 ((hper hm hholder).1 hp), hholder, hverb⟩, hcov⟩

end Grant

/-! ## Positions -/

section Positions

variable {α β γ : Type _}

/-- Going through the elements that pass is going through all, with nothing for the others. -/
theorem flatMap_filter_eq (q : α → Bool) (f : α → List β) (xs : List α) :
    (xs.filter q).flatMap f = xs.flatMap fun x => if q x then f x else [] := by
  induction xs with
  | nil => rfl
  | cons x xs ih =>
    rw [List.flatMap_cons, ← ih, List.filter_cons]
    split
    · rw [List.flatMap_cons]
    · rw [List.nil_append]

/-- The pairs that pass stand in the order of the first parts, and then of the second ones. -/
theorem filter_product (q : α × β → Bool) (xs : List α) (ys : List β) :
    (xs ×ˢ ys).filter q = xs.flatMap fun x => (ys.filter fun y => q (x, y)).map (Prod.mk x) := by
  simp only [SProd.sprod, List.product, List.filter_flatMap, List.filter_map, Function.comp_def]

end Positions

namespace AccessGraph

variable {grants grants' : List Grant} {groups groups' : List ResourceRef}
  {principal target : ResourceRef} {verb : String}

/-- Adding the grants of a list in turn gives the graph of the list. -/
theorem foldl_add (before grants : List Grant) :
    grants.foldl add (ofGrants before) = ofGrants (before ++ grants) := by
  induction grants generalizing before with
  | nil => rw [List.append_nil, List.foldl_nil]
  | cons grant grants ih => rw [List.foldl_cons, ← ofGrants_concat, ih, ← List.append_cons]

/-! ## The pairs that a path can be -/

/-- The pairs of grants that let a principal, or one of its groups, do a verb on a target: by the
    identity that holds the membership, and then by the positions of the two grants. -/
def pairs (grants : List Grant) (principal : ResourceRef) (verb : String) (target : ResourceRef)
    (groups : List ResourceRef) : List AccessPath :=
  (((principal :: groups) ×ˢ (grants ×ˢ grants)).filter fun t =>
    t.2.1.LetsDo t.2.2 t.1 verb target).map fun t => ⟨t.2.1, t.2.2⟩

/-- The paths of one identity through one of the grants, if that is a membership of it. -/
theorem pathsThrough_ofGrants (m : Grant) (identity : ResourceRef) :
    (if m.isMembership && decide (m.holder = identity) then
        (ofGrants grants).pathsThrough verb target m else []) =
      (grants.filter fun p => m.LetsDo p identity verb target).map fun p => ⟨m, p⟩ := by
  split
  next hm =>
    have hm : m.isMembership ∧ m.holder = identity := by simpa using hm
    rw [pathsThrough, permissionsOf, ofGrants, List.filter_filter, List.filter_filter]
    congr 2
    funext p
    rw [Bool.eq_iff_iff]
    simp only [Grant.letsDo_iff, hm, Bool.and_eq_true, decide_eq_true_eq, true_and, and_true]
    tauto
  next hm =>
    -- Without the membership no grant makes a pair with it.
    have hnone : (grants.filter fun p => m.LetsDo p identity verb target) = [] := by
      refine List.filter_eq_nil_iff.2 fun p _ hp => hm ?_
      simpa using (Grant.letsDo_iff.1 (of_decide_eq_true hp)).1
    rw [hnone, List.map_nil]

/-- The paths are the pairs, in this order and each as often. -/
theorem explain_ofGrants :
    (ofGrants grants).explain principal verb target groups =
      pairs grants principal verb target groups := by
  simp only [explain, pairs, filter_product, List.map_flatMap, List.map_map, Function.comp_def]
  congr 1
  funext identity
  rw [rolesOf, ofGrants, List.filter_filter, flatMap_filter_eq]
  congr 1
  funext m
  rw [← pathsThrough_ofGrants, Bool.and_comm]
  rfl

/-- Access is a pair of grants that let one of the identities do the verb. -/
theorem can_iff_exists_letsDo :
    (ofGrants grants).can principal verb target groups ↔
      ∃ identity ∈ principal :: groups, ∃ m ∈ grants, ∃ p ∈ grants,
        m.LetsDo p identity verb target := by
  rw [can_iff_exists_path, explain_ofGrants]
  simp only [pairs, List.mem_map, List.mem_filter, List.mem_product, Prod.exists,
    decide_eq_true_eq]
  constructor
  · rintro ⟨_, identity, m, p, ⟨⟨hid, hm, hp⟩, hlets⟩, rfl⟩
    exact ⟨identity, hid, m, hm, p, hp, hlets⟩
  · rintro ⟨identity, hid, m, hm, p, hp, hlets⟩
    exact ⟨_, identity, m, p, ⟨⟨hid, hm, hp⟩, hlets⟩, rfl⟩

/-- More grants and more groups take no access away. -/
theorem can_mono (hgrants : grants ⊆ grants') (hgroups : groups ⊆ groups')
    (hcan : (ofGrants grants).can principal verb target groups) :
    (ofGrants grants').can principal verb target groups' := by
  obtain ⟨identity, hid, m, hm, p, hp, hlets⟩ := can_iff_exists_letsDo.1 hcan
  exact can_iff_exists_letsDo.2 ⟨identity, List.cons_subset_cons principal hgroups hid,
    m, hgrants hm, p, hgrants hp, hlets⟩

/-! ## Naming everyone -/

/-- Everyone who has access holds a membership, and is therefore a principal of the graph. -/
theorem mem_principals_of_can (hcan : (ofGrants grants).can principal verb target []) :
    principal ∈ (ofGrants grants).principals := by
  obtain ⟨identity, hid, m, hm, p, hp, hlets⟩ := can_iff_exists_letsDo.1 hcan
  obtain rfl : identity = principal := List.mem_singleton.1 hid
  obtain ⟨hmember, rfl⟩ := (Grant.letsDo_iff.1 hlets).1
  refine (Text.mem_sortDistinctBy fun _ _ => ResourceRef.text_injective).2 ?_
  exact List.mem_map_of_mem (mem_memberships.2 ⟨hm, hmember⟩)

/-- The bulk question and the single one agree on everyone. -/
theorem mem_whoCan_iff :
    principal ∈ (ofGrants grants).whoCan verb target ↔
      (ofGrants grants).can principal verb target [] := by
  rw [whoCan, List.mem_filter, and_iff_right_iff_imp]
  exact mem_principals_of_can

theorem pairwise_whoCan (graph : AccessGraph) (verb : String) (target : ResourceRef) :
    (graph.whoCan verb target).Pairwise fun a b => a.text < b.text :=
  (Text.pairwise_sortDistinctBy ResourceRef.text _).filter _

/-- Graph queries are exact: for the graph that is built from a list of grants, the paths are the
    pairs of grants that give access, by position and with multiplicity; there is access if there is
    such a pair, so the order and the repetition of grants do not matter, and more grants or groups
    take nothing away; and those who can are named in the order of their ids, nobody left out. -/
theorem answers_exact (grants : List Grant) :
    grants.foldl add {} = ofGrants grants ∧
    (∀ principal verb target groups,
      (ofGrants grants).explain principal verb target groups =
        pairs grants principal verb target groups) ∧
    (∀ principal verb target groups,
      ((ofGrants grants).can principal verb target groups ↔
        ∃ identity ∈ principal :: groups, ∃ m ∈ grants, ∃ p ∈ grants,
          m.LetsDo p identity verb target) ∧
      (∀ grants', (∀ g, g ∈ grants' ↔ g ∈ grants) →
        (ofGrants grants').can principal verb target groups =
          (ofGrants grants).can principal verb target groups) ∧
      ∀ grants' groups', grants ⊆ grants' → groups ⊆ groups' →
        (ofGrants grants).can principal verb target groups →
          (ofGrants grants').can principal verb target groups') ∧
    ∀ verb target,
      ((ofGrants grants).whoCan verb target).Pairwise (fun a b => a.text < b.text) ∧
      ∀ q, q ∈ (ofGrants grants).whoCan verb target ↔ (ofGrants grants).can q verb target [] := by
  refine ⟨foldl_add [] grants, ?_, ?_, ?_⟩
  · intro principal verb target groups
    exact explain_ofGrants
  · intro principal verb target groups
    refine ⟨can_iff_exists_letsDo, fun grants' hsame => ?_, fun grants' groups' => can_mono⟩
    -- Lists of the same grants are each contained in the other.
    have hforth : grants ⊆ grants' := fun g hg => (hsame g).2 hg
    have hback : grants' ⊆ grants := fun g hg => (hsame g).1 hg
    exact Bool.eq_iff_iff.2
      ⟨can_mono hback (List.Subset.refl _), can_mono hforth (List.Subset.refl _)⟩
  · intro verb target
    exact ⟨pairwise_whoCan _ verb target, fun q => mem_whoCan_iff⟩

end AccessGraph
end ClusterAccess
