/-
  ClusterAccess.Proofs.GraphQueries

  The questions of an access graph in terms of the grants that it was made of: a
  path is a pair of grants, a membership and a permission of its role, and the
  answers are read off the pairs that there are.
-/
import ClusterAccess.AccessGraph

namespace ClusterAccess

/-! ## Covering -/

namespace ResourceRef

/-- A permission covers a target of its own kind that its membership reaches and that it is
    about. -/
theorem covers_iff {granted target : ResourceRef} {confinement : Option String} :
    granted.covers confinement target ↔
      granted.kind = target.kind ∧ target.liesWithin confinement ∧ granted.isAbout target := by
  simp only [covers, Bool.and_eq_true, beq_iff_eq, and_assoc]

/-- Inside a namespace lie the objects of that namespace alone. -/
theorem liesWithin_some_iff {target : ResourceRef} {ns : String} :
    target.liesWithin (some ns) ↔
      target.kind.isNamespaced ∧ target.isWildcard = false ∧ target.nsPart = ns := by
  simp only [liesWithin, Bool.and_eq_true, Bool.not_eq_true', beq_iff_eq, and_assoc]

end ResourceRef

/-! ## Paths -/

namespace AccessGraph

variable {graph : AccessGraph} {grants : List Grant} {principal target : ResourceRef}
  {verb : String} {groups : List ResourceRef}

theorem mem_memberships {g : Grant} :
    g ∈ (ofGrants grants).memberships ↔ g ∈ grants ∧ g.isMembership := by
  simp only [ofGrants, List.mem_filter]

theorem mem_permissions {g : Grant} :
    g ∈ (ofGrants grants).permissions ↔ g ∈ grants ∧ g.isPermission := by
  simp only [ofGrants, List.mem_filter]

theorem mem_rolesOf {m : Grant} :
    m ∈ graph.rolesOf principal ↔ m ∈ graph.memberships ∧ m.holder = principal := by
  simp only [rolesOf, List.mem_filter, decide_eq_true_eq]

theorem mem_permissionsOf {role : ResourceRef} {p : Grant} :
    p ∈ graph.permissionsOf role verb ↔
      p ∈ graph.permissions ∧ p.holder = role ∧ p.entitlement = verb := by
  simp only [permissionsOf, List.mem_filter, decide_eq_true_eq]

theorem mem_pathsThrough {m : Grant} {path : AccessPath} :
    path ∈ graph.pathsThrough verb target m ↔
      path.membership = m ∧ path.permission ∈ graph.permissionsOf m.target verb ∧
        path.permission.target.covers m.confinement target := by
  simp only [pathsThrough, List.mem_map, List.mem_filter]
  constructor
  · rintro ⟨p, ⟨hp, hcov⟩, rfl⟩
    exact ⟨rfl, hp, hcov⟩
  · rintro ⟨rfl, hp, hcov⟩
    exact ⟨path.permission, ⟨hp, hcov⟩, rfl⟩

/-- A path explains access if an identity holds its membership, and its permission is one of the
    role that covers the target. -/
theorem mem_explain {path : AccessPath} :
    path ∈ graph.explain principal verb target groups ↔
      path.membership ∈ graph.memberships ∧ path.membership.holder ∈ principal :: groups ∧
        path.permission ∈ graph.permissionsOf path.membership.target verb ∧
          path.permission.target.covers path.membership.confinement target := by
  simp only [explain, List.mem_flatMap, mem_rolesOf, mem_pathsThrough]
  -- The identity is the holder of the membership, so naming it adds nothing to the path.
  constructor
  · rintro ⟨identity, hid, m, ⟨hm, rfl⟩, rfl, hp, hcov⟩
    exact ⟨hm, hid, hp, hcov⟩
  · rintro ⟨hm, hid, hp, hcov⟩
    exact ⟨_, hid, _, ⟨hm, rfl⟩, rfl, hp, hcov⟩

theorem can_iff_exists_path :
    graph.can principal verb target groups ↔
      ∃ path, path ∈ graph.explain principal verb target groups := by
  rw [can, Bool.not_eq_true', List.isEmpty_eq_false_iff_exists_mem]

/-- Access is a pair of grants: a membership that an identity holds, and a permission of its role
    that covers the target. -/
theorem can_ofGrants_iff :
    (ofGrants grants).can principal verb target groups ↔
      ∃ m ∈ grants, m.isMembership ∧ m.holder ∈ principal :: groups ∧
        ∃ p ∈ grants, p.isPermission ∧ p.holder = m.target ∧ p.entitlement = verb ∧
          p.target.covers m.confinement target := by
  rw [can_iff_exists_path]
  simp only [mem_explain, mem_permissionsOf, mem_memberships, mem_permissions]
  -- Both sides hold the same facts; a path keeps its two grants together.
  constructor
  · rintro ⟨⟨m, p⟩, ⟨hm, hmem⟩, hid, ⟨⟨hp, hper⟩, hholder, hverb⟩, hcov⟩
    exact ⟨m, hm, hmem, hid, p, hp, hper, hholder, hverb, hcov⟩
  · rintro ⟨m, hm, hmem, hid, p, hp, hper, hholder, hverb, hcov⟩
    exact ⟨⟨m, p⟩, ⟨hm, hmem⟩, hid, ⟨⟨hp, hper⟩, hholder, hverb⟩, hcov⟩

end AccessGraph
end ClusterAccess
