/-
  ClusterAccess.Proofs.BoundRoles

  Roles together with the bindings to them, and the graph that several of them
  make. Where references are distinct and no rule makes members, every path of the
  graph stays inside of one role.
-/
import ClusterAccess.Proofs.CompiledGrants
import ClusterAccess.Proofs.GraphQueries

namespace ClusterAccess

/-- A role with all that is compiled of it: the bindings that make members of it wherever it
    reaches, those that make members inside their namespaces only, and its rules. -/
structure BoundRole where
  ref : ResourceRef
  isRole : ref.kind.isRole = true
  /-- The namespace of the role, empty for a role of the cluster. -/
  ns : String
  clusterWide : List Binding
  confined : List Binding
  rules : List PolicyRule

namespace BoundRole

/-- The memberships that the bindings give. -/
def memberships (r : BoundRole) : List Grant :=
  (Grant.memberships r.ref false r.clusterWide).grants ++
    (Grant.memberships r.ref true r.confined).grants

/-- The permissions that the rules give. -/
def permissions (r : BoundRole) : List Grant :=
  (Grant.permissions r.ref r.ns r.rules).grants

/-- The graph of several roles. -/
def graph (roles : List BoundRole) : AccessGraph :=
  .ofGrants (roles.flatMap fun r => r.memberships ++ r.permissions)

variable {r : BoundRole} {roles : List BoundRole} {g : Grant}

/-- The memberships of a role, exactly: one for each principal that a binding names, confined to a
    namespace if the binding is. -/
theorem mem_memberships_iff :
    g ∈ r.memberships ↔ g.entitlement = member ∧ g.target = r.ref ∧
      ((∃ b ∈ r.clusterWide, b.Names g.holder ∧ g.scope = none) ∨
        ∃ b ∈ r.confined, b.Names g.holder ∧ g.scope = b.scope true) := by
  rw [memberships, List.mem_append, Grant.mem_memberships_iff, Grant.mem_memberships_iff]
  constructor
  · rintro (⟨b, hb, hnames, hent, htarget, hscope⟩ | ⟨b, hb, hnames, hent, htarget, hscope⟩)
    · exact ⟨hent, htarget, .inl ⟨b, hb, hnames, hscope⟩⟩
    · exact ⟨hent, htarget, .inr ⟨b, hb, hnames, hscope⟩⟩
  · rintro ⟨hent, htarget, ⟨b, hb, hnames, hscope⟩ | ⟨b, hb, hnames, hscope⟩⟩
    · exact .inl ⟨b, hb, hnames, hent, htarget, hscope⟩
    · exact .inr ⟨b, hb, hnames, hent, htarget, hscope⟩

theorem names_of_mem_memberships (h : g ∈ r.memberships) :
    ∃ b ∈ r.clusterWide ++ r.confined, b.Names g.holder := by
  obtain ⟨-, -, ⟨b, hb, hnames, -⟩ | ⟨b, hb, hnames, -⟩⟩ := mem_memberships_iff.1 h
  · exact ⟨b, List.mem_append_left _ hb, hnames⟩
  · exact ⟨b, List.mem_append_right _ hb, hnames⟩

theorem holder_of_mem_permissions (h : g ∈ r.permissions) : g.holder = r.ref :=
  (Grant.mem_permissions_iff.1 h).1

theorem isPermission_of_mem_permissions (h : g ∈ r.permissions) (hmem : g.isMembership = false) :
    g.isPermission := by
  simp [Grant.isPermission, hmem, holder_of_mem_permissions h, r.isRole]

theorem mem_graph_permissions (hr : r ∈ roles) (h : g ∈ r.permissions)
    (hmem : g.isMembership = false) : g ∈ (graph roles).permissions := by
  refine AccessGraph.mem_permissions.2 ⟨?_, isPermission_of_mem_permissions h hmem⟩
  exact List.mem_flatMap.2 ⟨r, hr, List.mem_append_right _ h⟩

/-- Without such a rule nothing that rules give is a membership. -/
theorem isMembership_eq_false_of_mem_permissions
    (hrules : ∀ rule ∈ r.rules, ∀ target, rule.Gives r.ns member target →
      target.kind.isRole = false) (h : g ∈ r.permissions) : g.isMembership = false := by
  obtain ⟨-, -, rule, hrule, hgives⟩ := Grant.mem_permissions_iff.1 h
  -- A membership needs the word `member` and a role as its target.
  by_cases hent : g.entitlement = member
  · rw [hent] at hgives
    simp [Grant.isMembership, hrules rule hrule g.target hgives]
  · simp [Grant.isMembership, hent]

/-! ## Paths through one role -/

end BoundRole
end ClusterAccess
