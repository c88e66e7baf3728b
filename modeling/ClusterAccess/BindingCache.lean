/-
  ClusterAccess.BindingCache

  All bindings of the cluster, loaded as a whole and kept for a while. A load
  reads the bindings of all namespaces to their end, then those of the cluster,
  and publishes both at once; from its first call on the old load no longer
  counts, and a load that fails publishes nothing.
-/
import ClusterAccess.Binding
import ClusterAccess.Gateway

namespace ClusterAccess

/-- The bindings as last loaded. -/
structure BindingCache where
  /-- How many seconds a load counts; zero is for ever. -/
  ttl : Nat
  roleBindings : List RoleBinding := []
  clusterRoleBindings : List ClusterRoleBinding := []
  loaded : Bool := false
  loadedAt : Int := 0
  /-- How many loads have been published. -/
  loadCount : Nat := 0
  deriving Repr

namespace BindingCache

/-! ## States -/

/-- Whether the last load counts at a time. -/
def isFresh (c : BindingCache) (now : Int) : Bool :=
  c.loaded && (c.ttl == 0 || now < c.loadedAt + c.ttl)

/-- The last load no longer counts. -/
def drop (c : BindingCache) : BindingCache :=
  { c with loaded := false }

/-- Publishes a load. -/
def publish (now : Int) (roleBindings : List RoleBinding)
    (clusterRoleBindings : List ClusterRoleBinding) (c : BindingCache) : BindingCache :=
  { c with
    roleBindings
    clusterRoleBindings
    loaded := true
    loadedAt := now
    loadCount := c.loadCount + 1 }

/-- The bindings of a namespace to a role in it. -/
def ofRole (c : BindingCache) (ns name : String) : List RoleBinding :=
  c.roleBindings.filter fun b => b.ns == ns && b.roleRef.names .role name

/-- The bindings inside namespaces to a role of the cluster. -/
def confinedTo (c : BindingCache) (name : String) : List RoleBinding :=
  c.roleBindings.filter fun b => b.roleRef.names .clusterRole name

/-- The bindings across the cluster to a role of the cluster. -/
def clusterWideTo (c : BindingCache) (name : String) : List ClusterRoleBinding :=
  c.clusterRoleBindings.filter fun b => b.roleRef.names .clusterRole name

/-! ## Actions -/

/-- Loads all bindings. -/
def load : Action (Linked BindingCache) Unit := do
  modify fun s => { s with own := s.own.drop }
  let roleBindings ← Linked.fetch Gateway.allRoleBindings
  let clusterRoleBindings ← Linked.fetch Gateway.allClusterRoleBindings
  modify fun s =>
    { s with own := s.own.publish s.gateway.clock roleBindings clusterRoleBindings }

/-- Loads all bindings unless the last load counts. -/
def ensureLoaded : Action (Linked BindingCache) Unit := do
  let s ← get
  unless s.own.isFresh s.gateway.clock do load

/-- The bindings of a namespace to a role in it. -/
def matchingRole (ns name : String) : Action (Linked BindingCache) (List RoleBinding) := do
  ensureLoaded
  let s ← get
  pure (s.own.ofRole ns name)

/-- The bindings to a role of the cluster: those inside namespaces, and those across the cluster. -/
def matchingClusterRole (name : String) :
    Action (Linked BindingCache) (List RoleBinding × List ClusterRoleBinding) := do
  ensureLoaded
  let s ← get
  pure (s.own.confinedTo name, s.own.clusterWideTo name)

/-! ## Small facts -/

theorem isFresh_iff {c : BindingCache} {now : Int} :
    c.isFresh now ↔ c.loaded ∧ (c.ttl = 0 ∨ now < c.loadedAt + c.ttl) := by
  rw [isFresh, Bool.and_eq_true, Bool.or_eq_true, beq_iff_eq, decide_eq_true_iff]

/-- Only what is loaded counts. -/
theorem loaded_of_isFresh {c : BindingCache} {now : Int} (h : c.isFresh now) : c.loaded :=
  (isFresh_iff.1 h).1

theorem isFresh_drop (c : BindingCache) (now : Int) : c.drop.isFresh now = false := rfl

@[simp] theorem loadCount_drop (c : BindingCache) : c.drop.loadCount = c.loadCount := rfl

@[simp] theorem loadCount_publish (c : BindingCache) (now : Int) (roleBindings : List RoleBinding)
    (clusterRoleBindings : List ClusterRoleBinding) :
    (c.publish now roleBindings clusterRoleBindings).loadCount = c.loadCount + 1 := rfl

end BindingCache
end ClusterAccess
