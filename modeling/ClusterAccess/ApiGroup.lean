/-
  ClusterAccess.ApiGroup

  From the group and the resource that a rule names to the kind it is about.
  A group has several spellings; a resource is written in the plural or without
  its last letter. Wildcards, subresources and resources without a kind here
  have no kind.
-/
import ClusterAccess.ResourceKind

namespace ClusterAccess

/-- A group of the cluster's interface. -/
inductive ApiGroup
  | core
  | apps
  | rbac
  | openshiftUser
  deriving DecidableEq, Repr

namespace ApiGroup

/-- The group with a spelling. -/
def ofName? : String → Option ApiGroup
  | "" => some .core
  | "core" => some .core
  | "apps" => some .apps
  | "apps/v1" => some .apps
  | "rbac.authorization.k8s.io" => some .rbac
  | "rbac.authorization.k8s.io/v1" => some .rbac
  | "user.openshift.io" => some .openshiftUser
  | "user.openshift.io/v1" => some .openshiftUser
  | _ => none

/-- The resources of a group by their plural names. Users and groups are things to impersonate. -/
def plurals : ApiGroup → List (String × ResourceKind)
  | .core => [
    ("pods", .pod), ("namespaces", .nameSpace), ("configmaps", .configMap), ("secrets", .secret),
    ("serviceaccounts", .serviceAccount), ("nodes", .node), ("users", .user), ("groups", .group)]
  | .apps => [
    ("deployments", .deployment), ("statefulsets", .statefulSet), ("daemonsets", .daemonSet)]
  | .rbac => [
    ("roles", .role), ("clusterroles", .clusterRole), ("rolebindings", .binding),
    ("clusterrolebindings", .binding)]
  | .openshiftUser => [("users", .user), ("groups", .group)]

/-- The singular of a plural: all but its last letter. -/
def singular (plural : String) : String :=
  String.ofList plural.toList.dropLast

/-- The kind that a resource of a group is. -/
def kindOf? (group : ApiGroup) (resource : String) : Option ResourceKind :=
  (group.plurals.find? fun entry => entry.1 = resource ∨ singular entry.1 = resource).map (·.2)

end ApiGroup

/-- The kind that a rule's group and resource name. -/
def ResourceKind.ofRule? (apiGroup resource : String) : Option ResourceKind :=
  match ApiGroup.ofName? apiGroup with
  | some g => g.kindOf? resource
  | none => none

end ClusterAccess
