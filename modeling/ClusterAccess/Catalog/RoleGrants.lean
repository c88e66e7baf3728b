/-
  ClusterAccess.Catalog.RoleGrants

  The grants of one role: the memberships that bindings give of it, then the
  permissions that its rules give. The resource that stands for a whole kind has
  none.
-/
import ClusterAccess.BindingCache
import ClusterAccess.Grant.Permissions

namespace ClusterAccess.Catalog

/-- The grants of a role of a namespace. The role is read before its bindings. -/
def grantsOfRole (ref : ResourceRef) : Action (Linked BindingCache) (List Grant) := do
  if ref.isWildcard then return []
  let (ns, name) ← Action.ofExcept .ref (ResourceRef.splitNamespaced ref.object)
  let role ← Linked.fetch (Gateway.role ns name)
  let bindings ← BindingCache.matchingRole ns name
  pure ((Grant.memberships ref false (bindings.map .inNamespace)).grants ++
    (Grant.permissions ref ns role.rules).grants)

/-- The grants of a role of the cluster: memberships across the cluster come before those inside
namespaces, which are confined to them. The bindings are read before the role. -/
def grantsOfClusterRole (ref : ResourceRef) : Action (Linked BindingCache) (List Grant) := do
  if ref.isWildcard then return []
  let (confined, clusterWide) ← BindingCache.matchingClusterRole ref.object
  let role ← Linked.fetch (Gateway.clusterRole ref.object)
  pure ((Grant.memberships ref false (clusterWide.map .clusterWide)).grants ++
    (Grant.memberships ref true (confined.map .inNamespace)).grants ++
    (Grant.permissions ref "" role.rules).grants)

end ClusterAccess.Catalog
