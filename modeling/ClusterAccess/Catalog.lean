/-
  ClusterAccess.Catalog

  What the cluster has, kind by kind: a catalogue lists the resources of its
  kind, offers entitlements on each, and knows the grants of each. Listings of
  principals and of namespaces have a memory, which is the catalogue's state.
-/
import ClusterAccess.Catalog.Listing
import ClusterAccess.Catalog.Namespaces
import ClusterAccess.Catalog.Principals
import ClusterAccess.Catalog.RoleGrants

namespace ClusterAccess

/-- A catalogue of one kind. -/
inductive Catalog
  | inventory (i : Inventory)
  | roles
  | clusterRoles (namespaces : NamespaceCache)
  | principals (listing : PrincipalListing)
  deriving DecidableEq, Repr

namespace Catalog

/-- The kind that a catalogue lists. -/
def kind : Catalog → ResourceKind
  | .inventory i => i.kind
  | .roles => .role
  | .clusterRoles _ => .clusterRole
  | .principals listing => listing.principal.kind

/-- One page of resources. The token is read before anything else happens. -/
def list (token : String) : Action (Linked Catalog) (Page Resource) := do
  let t ← Action.ofExcept .token (PageToken.decode token)
  let s ← get
  match s.own with
  | .inventory i => Linked.fetch (listInventory i t)
  | .roles => Linked.fetch (listRoles t)
  | .clusterRoles _ => Linked.fetch (listClusterRoles t)
  | .principals listing => Linked.within listing .principals (PrincipalListing.list t)

/-- The names of all namespaces, which only the catalogue of cluster roles needs. -/
def namespaces : Action (Linked Catalog) (List String) := do
  let s ← get
  match s.own with
  | .clusterRoles cache => Linked.within cache .clusterRoles NamespaceCache.names
  | _ => pure []

/-- The entitlements on a resource. -/
def entitlements (r : Resource) : Action (Linked Catalog) (List Entitlement) := do
  let s ← get
  match s.own with
  | .inventory i => pure (Entitlement.ofInventory i r)
  | .roles => pure (Entitlement.ofRole r)
  | .clusterRoles _ => do
    let names ← namespaces
    pure (Entitlement.ofClusterRole names r)
  | .principals listing => pure [Entitlement.impersonate listing.principal.noun r]

/-- The grants of a resource. Only roles have any. -/
def grants (c : Catalog) (r : Resource) : Action (Linked BindingCache) (List Grant) :=
  match c with
  | .roles => grantsOfRole r.ref
  | .clusterRoles _ => grantsOfClusterRole r.ref
  | _ => pure []

/-! ## All catalogues -/

/-- The kinds of plain objects in catalogue order. Pods are many, and can be left out. -/
def inventories (withPods : Bool) : List Inventory :=
  [.secret, .configMap, .node, .deployment, .statefulSet, .daemonSet] ++
    if withPods then [.pod] else []

/-- A new catalogue of each kind, in the order of a snapshot. -/
def fresh (withPods : Bool) (namespaceTtl : Nat) : List Catalog :=
  [.inventory .nameSpace, .inventory .serviceAccount, .roles,
    .clusterRoles { ttl := namespaceTtl }] ++
    (inventories withPods).map .inventory ++
    [.principals { principal := .user }, .principals { principal := .group }]

end Catalog
end ClusterAccess
