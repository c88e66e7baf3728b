/-
  ClusterAccess.Proofs.ContentGrants

  The grants of a cluster's contents, and that the catalogues of roles give them:
  a role is found again under the reference that it is listed with, and its
  bindings are those that name it, whether they have been loaded before or not.
-/
import ClusterAccess.Catalog.RoleGrants
import ClusterAccess.Proofs.BindingLoads
import ClusterAccess.Proofs.ObjectParts
import ClusterAccess.Proofs.StaticServer

namespace ClusterAccess

/-! ## Contents -/

/-- The reference that a role of a namespace is listed with. -/
def Role.ref (r : Role) : ResourceRef :=
  ⟨.role, r.object.ns.getD "" ++ "/" ++ r.object.name⟩

/-- The reference that a role of the cluster is listed with. -/
def ClusterRole.ref (r : ClusterRole) : ResourceRef :=
  ⟨.clusterRole, r.object.name⟩

namespace Contents

/-- The rules of all roles. -/
def rules (c : Contents) : List PolicyRule :=
  c.roles.flatMap Role.rules ++ c.clusterRoles.flatMap ClusterRole.rules

/-- Names that keep roles apart: each can be told from the others by its reference, and from the
    resource that stands for a whole kind. -/
structure RolesNamed (c : Contents) : Prop where
  role : ∀ r ∈ c.roles, ∃ ns, r.object.ns = some ns ∧ ns ≠ "" ∧ '/' ∉ ns.toList ∧
    r.object.name ≠ "" ∧ '/' ∉ r.object.name.toList ∧ ¬ (ns = wildcard ∧ r.object.name = wildcard)
  roles : (c.roles.map fun r => (r.object.ns, r.object.name)).Nodup
  clusterRole : ∀ r ∈ c.clusterRoles, r.object.name ≠ "" ∧ r.object.name ≠ wildcard
  clusterRoles : (c.clusterRoles.map fun r => r.object.name).Nodup

/-- The bindings of a namespace to a role in it. -/
def bindingsOfRole (c : Contents) (ns name : String) : List RoleBinding :=
  c.roleBindings.filter fun b => b.ns == ns && b.roleRef.names .role name

/-- The bindings inside namespaces to a role of the cluster. -/
def confinedTo (c : Contents) (name : String) : List RoleBinding :=
  c.roleBindings.filter fun b => b.roleRef.names .clusterRole name

/-- The bindings across the cluster to a role of the cluster. -/
def clusterWideTo (c : Contents) (name : String) : List ClusterRoleBinding :=
  c.clusterRoleBindings.filter fun b => b.roleRef.names .clusterRole name

/-- The grants of a role of a namespace. -/
def grantsOfRole (c : Contents) (r : Role) : List Grant :=
  let ns := r.object.ns.getD ""
  (Grant.memberships r.ref false ((c.bindingsOfRole ns r.object.name).map .inNamespace)).grants ++
    (Grant.permissions r.ref ns r.rules).grants

/-- The grants of a role of the cluster. -/
def grantsOfClusterRole (c : Contents) (r : ClusterRole) : List Grant :=
  (Grant.memberships r.ref false ((c.clusterWideTo r.object.name).map .clusterWide)).grants ++
    (Grant.memberships r.ref true ((c.confinedTo r.object.name).map .inNamespace)).grants ++
      (Grant.permissions r.ref "" r.rules).grants

/-- All grants of the resources of a kind. -/
def grantsOfKind (c : Contents) : ResourceKind → List Grant
  | .role => c.roles.flatMap c.grantsOfRole
  | .clusterRole => c.clusterRoles.flatMap c.grantsOfClusterRole
  | _ => []

/-- All grants. -/
def grants (c : Contents) : List Grant :=
  c.grantsOfKind .role ++ c.grantsOfKind .clusterRole

/-! ## Looking up -/

/-- An element is found by its key if no other one has it. -/
theorem find?_of_nodup {α κ : Type} [DecidableEq κ] {key : α → κ} {xs : List α} {x : α}
    (hnodup : (xs.map key).Nodup) (hx : x ∈ xs) : xs.find? (fun y => key y = key x) = some x := by
  induction xs with
  | nil => cases hx
  | cons y ys ih =>
    rw [List.map_cons, List.nodup_cons] at hnodup
    rcases List.mem_cons.1 hx with rfl | hmem
    · exact List.find?_cons_of_pos (by simp)
    · have hne : key y ≠ key x := fun heq => hnodup.1 (heq ▸ List.mem_map_of_mem hmem)
      rw [List.find?_cons_of_neg (by simpa using hne), ih hnodup.2 hmem]

variable {c : Contents}

theorem RolesNamed.role?_eq (h : c.RolesNamed) {r : Role} (hr : r ∈ c.roles) {ns : String}
    (hns : r.object.ns = some ns) : c.role? ns r.object.name = some r := by
  rw [← find?_of_nodup h.roles hr, role?]
  simp only [hns, Prod.mk.injEq]

theorem RolesNamed.clusterRole?_eq (h : c.RolesNamed) {r : ClusterRole} (hr : r ∈ c.clusterRoles) :
    c.clusterRole? r.object.name = some r :=
  find?_of_nodup h.clusterRoles hr

end Contents

/-! ## Loaded bindings -/

namespace BindingCache

/-- A load that may still count is one of the bindings of these contents. -/
def HoldsOf (contents : Contents) (c : BindingCache) : Prop :=
  c.loaded → c.roleBindings = contents.roleBindings ∧
    c.clusterRoleBindings = contents.clusterRoleBindings

/-- The bindings of these contents are loaded, or can be. -/
def Serving (contents : Contents) (server : Server) (size : Nat) (l : Linked BindingCache) : Prop :=
  l.own.HoldsOf contents ∧ l.gateway.Reaches server size

variable {contents : Contents} {server : Server} {size : Nat}

/-- Whether or not a load counts, there is one afterwards, and it is of these contents. -/
theorem ensureLoaded_of_serving (h : server.Delivers size contents) {l : Linked BindingCache}
    (hl : Serving contents server size l) :
    ∃ l', ensureLoaded l = .ok () l' ∧ Serving contents server size l' ∧
      l'.own.roleBindings = contents.roleBindings ∧
        l'.own.clusterRoleBindings = contents.clusterRoleBindings := by
  obtain ⟨hholds, hreaches⟩ := hl
  cases hfresh : l.own.isFresh l.gateway.clock with
  | true =>
    -- What counts was loaded from these contents before.
    exact ⟨l, ensureLoaded_of_isFresh hfresh, ⟨hholds, hreaches⟩,
      hholds (loaded_of_isFresh hfresh)⟩
  | false =>
    -- Both lists are read as they are served, and so is what is published.
    obtain ⟨_, g, hrun, hg, rfl⟩ :=
      Gateway.yields_allRoleBindings h.roleBindings l.gateway hreaches
    obtain ⟨_, g', hrun', hg', rfl⟩ :=
      Gateway.yields_allClusterRoleBindings h.clusterRoleBindings g hg
    rw [ensureLoaded_of_not_isFresh hfresh, load_apply, hrun]
    simp only [hrun']
    exact ⟨_, rfl, ⟨fun _ => ⟨rfl, rfl⟩, hg'⟩, rfl, rfl⟩

theorem yields_matchingRole (h : server.Delivers size contents) (ns name : String) :
    Action.Yields (Serving contents server size) (matchingRole ns name)
      (· = contents.bindingsOfRole ns name) := by
  intro l hl
  obtain ⟨l', hrun, hl', hroles, -⟩ := ensureLoaded_of_serving h hl
  refine ⟨_, l', by rw [matchingRole_apply, hrun], hl', ?_⟩
  rw [ofRole, hroles]
  rfl

theorem yields_matchingClusterRole (h : server.Delivers size contents) (name : String) :
    Action.Yields (Serving contents server size) (matchingClusterRole name)
      (· = (contents.confinedTo name, contents.clusterWideTo name)) := by
  intro l hl
  obtain ⟨l', hrun, hl', hroles, hclusters⟩ := ensureLoaded_of_serving h hl
  refine ⟨_, l', by rw [matchingClusterRole_apply, hrun], hl', ?_⟩
  rw [confinedTo, clusterWideTo, hroles, hclusters]
  rfl

/-- A call leaves the bindings alone. -/
theorem yields_fetch {α : Type} {act : Fetch α} {Q : α → Prop}
    (h : Action.Yields (Gateway.Reaches server size) act Q) :
    Action.Yields (Serving contents server size) (Linked.fetch act) Q :=
  h.onPart (fun _ hl => hl.2) fun _ _ hg hl => ⟨hl.1, hg⟩

end BindingCache

/-! ## Catalogues of roles -/

namespace Catalog

open BindingCache (Serving)

variable {contents : Contents} {server : Server} {size : Nat} {ref : ResourceRef}

theorem yields_grantsOfRole_wildcard (h : ref.isWildcard) :
    Action.Yields (Serving contents server size) (grantsOfRole ref) (· = []) := by
  rw [grantsOfRole, if_pos h]
  exact Action.yields_pure rfl

theorem yields_grantsOfClusterRole_wildcard (h : ref.isWildcard) :
    Action.Yields (Serving contents server size) (grantsOfClusterRole ref) (· = []) := by
  rw [grantsOfClusterRole, if_pos h]
  exact Action.yields_pure rfl

/-- A role of a namespace has the grants of the contents. -/
theorem yields_grantsOfRole (h : server.Delivers size contents) (hnamed : contents.RolesNamed)
    {r : Role} (hr : r ∈ contents.roles) :
    Action.Yields (Serving contents server size) (grantsOfRole r.ref)
      (· = contents.grantsOfRole r) := by
  obtain ⟨ns, hns, hne, hslash, hname, hnameSlash, -⟩ := hnamed.role r hr
  have hobject : r.ref.object = ns ++ "/" ++ r.object.name := by rw [Role.ref, hns]; rfl
  have hwild : ¬ r.ref.isWildcard := by
    rw [ResourceRef.isWildcard_iff, hobject]
    exact ResourceRef.namespaced_ne_wildcard
  rw [grantsOfRole, if_neg hwild, hobject,
    ResourceRef.splitNamespaced_namespaced hne hslash hname hnameSlash]
  -- First the reference is taken apart, then the role is asked for, then its bindings.
  refine (Action.yields_pure (Q := (· = (ns, r.object.name))) rfl).bind ?_
  rintro _ rfl
  refine (BindingCache.yields_fetch
    (Gateway.yields_role (h.role (hnamed.role?_eq hr hns)))).bind ?_
  rintro _ rfl
  refine (BindingCache.yields_matchingRole h ns _).bind ?_
  rintro _ rfl
  refine Action.yields_pure ?_
  rw [Contents.grantsOfRole, hns, Option.getD_some]

/-- A role of the cluster has the grants of the contents. -/
theorem yields_grantsOfClusterRole (h : server.Delivers size contents)
    (hnamed : contents.RolesNamed) {r : ClusterRole} (hr : r ∈ contents.clusterRoles) :
    Action.Yields (Serving contents server size) (grantsOfClusterRole r.ref)
      (· = contents.grantsOfClusterRole r) := by
  have hwild : ¬ r.ref.isWildcard := by
    rw [ResourceRef.isWildcard_iff]
    exact (hnamed.clusterRole r hr).2
  rw [grantsOfClusterRole, if_neg hwild]
  refine (BindingCache.yields_matchingClusterRole h r.object.name).bind ?_
  rintro _ rfl
  refine (BindingCache.yields_fetch
    (Gateway.yields_clusterRole (h.clusterRole (hnamed.clusterRole?_eq hr)))).bind ?_
  rintro _ rfl
  exact Action.yields_pure rfl

end Catalog
end ClusterAccess
