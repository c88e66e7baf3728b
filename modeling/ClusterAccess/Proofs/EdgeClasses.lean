/-
  ClusterAccess.Proofs.EdgeClasses

  Memberships and permissions travel as one kind of grant, and a graph tells them
  apart by their words and ends alone. They stay apart exactly if no rule gives the
  verb `member` on a role: such a rule makes its own role a member of the roles
  that it names.
-/
import ClusterAccess.Proofs.BoundRoles
import ClusterAccess.Proofs.SortedTexts

namespace ClusterAccess

/-! ## Principals of a graph -/

/-- The principals of a graph hold its memberships. -/
theorem AccessGraph.exists_of_mem_principals {graph : AccessGraph} {principal : ResourceRef}
    (h : principal ∈ graph.principals) : ∃ m ∈ graph.memberships, m.holder = principal :=
  List.mem_map.1 (Text.mem_of_mem_sortDistinctBy h)

/-! ## The two classes of edges -/

/-- Memberships are what bindings give, and permissions are what rules give. -/
structure EdgesApart (roles : List BoundRole) : Prop where
  /-- The principals are users, groups and service accounts that the bindings name. -/
  principals_named : ∀ q ∈ (BoundRole.graph roles).principals,
    q.kind ∈ Entitlement.principals ∧ ∃ r ∈ roles, ∃ b ∈ r.clusterWide ++ r.confined, b.Names q
  /-- Nobody has a role by what a rule gives. -/
  no_role_by_rule : ∀ r ∈ roles, ∀ g ∈ r.permissions, ∀ q, g ∉ (BoundRole.graph roles).rolesOf q
  /-- What a rule gives is a permission of every member of the role, as far as it covers. -/
  rule_permits : ∀ r ∈ roles, ∀ g ∈ r.permissions, ∀ (principal : ResourceRef)
    (groups : List ResourceRef) (target : ResourceRef), ∀ q ∈ principal :: groups,
    ∀ m ∈ (BoundRole.graph roles).rolesOf q, m.target = r.ref →
      g.target.covers m.confinement target →
        ⟨m, g⟩ ∈ (BoundRole.graph roles).explain principal g.entitlement target groups

/-- A rule that gives `member` on a role makes a membership. -/
theorem isMembership_of_gives {roles : List BoundRole} {r : BoundRole} {rule : PolicyRule}
    {target : ResourceRef} (hr : r ∈ roles) (hrule : rule ∈ r.rules)
    (hgives : rule.Gives r.ns member target) (hrole : target.kind.isRole) :
    (⟨member, r.ref, target, none⟩ : Grant) ∈ r.permissions ∧
      (⟨member, r.ref, target, none⟩ : Grant) ∈ (BoundRole.graph roles).rolesOf r.ref := by
  have hmem : (⟨member, r.ref, target, none⟩ : Grant) ∈ r.permissions :=
    Grant.mem_permissions_iff.2 ⟨rfl, rfl, rule, hrule, hgives⟩
  refine ⟨hmem, AccessGraph.mem_rolesOf.2 ⟨AccessGraph.mem_memberships.2 ⟨?_, ?_⟩, rfl⟩⟩
  · exact List.mem_flatMap.2 ⟨r, hr, List.mem_append_right _ hmem⟩
  · simp [Grant.isMembership, hrole]

namespace BoundRole

variable {roles : List BoundRole} {r : BoundRole} {g m : Grant} {principal q target : ResourceRef}
  {groups : List ResourceRef}
  (hnot : ∀ r ∈ roles, ∀ g ∈ r.permissions, g.isMembership = false)
include hnot

theorem named_of_mem_principals (hq : q ∈ (graph roles).principals) :
    q.kind ∈ Entitlement.principals ∧
      ∃ r ∈ roles, ∃ b ∈ r.clusterWide ++ r.confined, b.Names q := by
  obtain ⟨m, hm, rfl⟩ := AccessGraph.exists_of_mem_principals hq
  obtain ⟨hgrant, hmem⟩ := AccessGraph.mem_memberships.1 hm
  obtain ⟨r, hr, hgrant⟩ := List.mem_flatMap.1 hgrant
  rcases List.mem_append.1 hgrant with hgrant | hgrant
  · obtain ⟨b, hb, hnames⟩ := names_of_mem_memberships hgrant
    exact ⟨hnames.kind_mem_principals, r, hr, b, hb, hnames⟩
  · -- Held by the role itself: only a membership made by a rule could be.
    rw [hnot r hr m hgrant] at hmem
    cases hmem

theorem notMem_rolesOf (hr : r ∈ roles) (hg : g ∈ r.permissions) :
    g ∉ (graph roles).rolesOf q := by
  intro hroles
  have hmem := (AccessGraph.mem_memberships.1 (AccessGraph.mem_rolesOf.1 hroles).1).2
  rw [hnot r hr g hg] at hmem
  cases hmem

theorem mem_explain_of_mem_rolesOf (hr : r ∈ roles) (hg : g ∈ r.permissions)
    (hq : q ∈ principal :: groups) (hm : m ∈ (graph roles).rolesOf q)
    (hrole : m.target = r.ref) (hcov : g.target.covers m.confinement target) :
    ⟨m, g⟩ ∈ (graph roles).explain principal g.entitlement target groups := by
  obtain ⟨hmember, rfl⟩ := AccessGraph.mem_rolesOf.1 hm
  have hper := mem_graph_permissions hr hg (hnot r hr g hg)
  refine AccessGraph.mem_explain.2 ⟨hmember, hq, ?_, hcov⟩
  exact AccessGraph.mem_permissionsOf.2
    ⟨hper, (holder_of_mem_permissions hg).trans hrole.symm, rfl⟩

end BoundRole

/-- The edges stay apart exactly if no rule gives the verb `member` on a role. -/
theorem edgesApart_iff (roles : List BoundRole) :
    EdgesApart roles ↔
      ∀ r ∈ roles, ∀ rule ∈ r.rules, ∀ target : ResourceRef,
        rule.Gives r.ns member target → target.kind.isRole = false := by
  constructor
  · -- Such a rule would make the role a member of the target, by what a rule gives.
    intro hapart r hr rule hrule target hgives
    cases hrole : target.kind.isRole with
    | false => rfl
    | true =>
      obtain ⟨hmem, hroles⟩ := isMembership_of_gives hr hrule hgives hrole
      exact absurd hroles (hapart.no_role_by_rule r hr _ hmem r.ref)
  · intro hrules
    have hnot : ∀ r ∈ roles, ∀ g ∈ r.permissions, g.isMembership = false := fun r hr g hg =>
      BoundRole.isMembership_eq_false_of_mem_permissions (hrules r hr) hg
    refine ⟨?_, ?_, ?_⟩
    · intro q hq
      exact BoundRole.named_of_mem_principals hnot hq
    · intro r hr g hg q
      exact BoundRole.notMem_rolesOf hnot hr hg
    · intro r hr g hg principal groups target q hq m hm hrole hcov
      exact BoundRole.mem_explain_of_mem_rolesOf hnot hr hg hq hm hrole hcov

/-! ## A rule that makes members -/

/-- A role whose one rule gives the verb `member` on all roles. -/
def selfEnrolling : BoundRole where
  ref := ⟨.role, "team-a/keeper"⟩
  isRole := rfl
  ns := "team-a"
  clusterWide := []
  confined := []
  rules := [{
    verbs := ["member"]
    apiGroups := ["rbac.authorization.k8s.io"]
    resources := ["roles"] }]

/-- Without a single binding, the role is a principal of its graph. -/
theorem not_edgesApart_selfEnrolling :
    (BoundRole.graph [selfEnrolling]).principals = [⟨.role, "team-a/keeper"⟩] ∧
      ¬ EdgesApart [selfEnrolling] := by
  have hprincipals : (BoundRole.graph [selfEnrolling]).principals = [⟨.role, "team-a/keeper"⟩] := by
    decide
  refine ⟨hprincipals, fun hapart => ?_⟩
  have hkind := (hapart.principals_named ⟨.role, "team-a/keeper"⟩ (by rw [hprincipals]; simp)).1
  exact absurd hkind (by decide)

end ClusterAccess
