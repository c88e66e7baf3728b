/-
  ClusterAccess.ResourceKind

  The kinds of things that the access graph is about, with what is fixed for
  each: its name in ids, its title, its traits, and whether its objects live in
  namespaces.
-/
import ClusterAccess.Json.Basic

namespace ClusterAccess

/-- A kind of resource. -/
inductive ResourceKind
  | nameSpace
  | serviceAccount
  | role
  | clusterRole
  | secret
  | configMap
  | node
  | pod
  | deployment
  | statefulSet
  | daemonSet
  | user
  | group
  /-- Stands for bindings as targets of rules; it is never listed. -/
  | binding
  deriving DecidableEq, Repr, Inhabited

/-- What a resource can be to the reader of a snapshot. -/
inductive Trait
  | user
  | group
  | role
  | secret
  deriving DecidableEq, Repr

/-- The name of a trait. -/
def Trait.name : Trait → String
  | .user => "user"
  | .group => "group"
  | .role => "role"
  | .secret => "secret"

namespace ResourceKind

/-- Every kind. -/
def all : List ResourceKind := [
  .nameSpace, .serviceAccount, .role, .clusterRole, .secret, .configMap, .node, .pod,
  .deployment, .statefulSet, .daemonSet, .user, .group, .binding]

/-- The name of a kind in ids. -/
def id : ResourceKind → String
  | .nameSpace => "namespace"
  | .serviceAccount => "service_account"
  | .role => "role"
  | .clusterRole => "cluster_role"
  | .secret => "secret"
  | .configMap => "configmap"
  | .node => "node"
  | .pod => "pod"
  | .deployment => "deployment"
  | .statefulSet => "statefulset"
  | .daemonSet => "daemonset"
  | .user => "kube_user"
  | .group => "kube_group"
  | .binding => "binding"

/-- The kind with a name. -/
def ofId? (name : String) : Option ResourceKind :=
  all.find? fun kind => kind.id = name

/-- The title of a kind. -/
def title : ResourceKind → String
  | .nameSpace => "Namespace"
  | .serviceAccount => "Service Account"
  | .role => "Role"
  | .clusterRole => "Cluster Role"
  | .secret => "Secret"
  | .configMap => "Config Map"
  | .node => "Node"
  | .pod => "Pod"
  | .deployment => "Deployment"
  | .statefulSet => "Stateful Set"
  | .daemonSet => "Daemon Set"
  | .user => "Kubernetes User"
  | .group => "Kubernetes Group"
  | .binding => "Binding"

/-- What a kind is for, where its title does not say it. -/
def description : ResourceKind → Option String
  | .binding => some "Internal type for processing RBAC bindings"
  | _ => none

/-- The traits of a kind. -/
def traits : ResourceKind → List Trait
  | .serviceAccount => [.user]
  | .role => [.role]
  | .clusterRole => [.role]
  | .secret => [.secret]
  | .user => [.user]
  | .group => [.group]
  | _ => []

/-- Whether objects of a kind live in namespaces. -/
def isNamespaced : ResourceKind → Bool
  | .serviceAccount => true
  | .role => true
  | .secret => true
  | .configMap => true
  | .pod => true
  | .deployment => true
  | .statefulSet => true
  | .daemonSet => true
  | .binding => true
  | _ => false

/-- Whether a kind is one of the two kinds of roles. -/
def isRole : ResourceKind → Bool
  | .role => true
  | .clusterRole => true
  | _ => false

/-- The names of traits as a document. -/
def traitsJson (traits : List Trait) : Json :=
  .ofTexts (traits.map Trait.name)

/-- A kind as a document. -/
def toJson (kind : ResourceKind) : Json := .object [
  ("id", .text kind.id),
  ("display_name", .text kind.title),
  ("description", .ofText? kind.description),
  ("traits", traitsJson kind.traits),
  ("namespaced", .bool kind.isNamespaced)]

/-! ## Small facts -/

theorem mem_all (kind : ResourceKind) : kind ∈ all := by
  cases kind <;> decide

theorem ofId?_id (kind : ResourceKind) : ofId? kind.id = some kind := by
  cases kind <;> decide

theorem id_eq_of_ofId? {name : String} {kind : ResourceKind} (h : ofId? name = some kind) :
    kind.id = name := by
  simpa using List.find?_some h

theorem id_injective {k₁ k₂ : ResourceKind} (h : k₁.id = k₂.id) : k₁ = k₂ := by
  have h₁ := ofId?_id k₁
  rw [h, ofId?_id k₂] at h₁
  exact (Option.some.inj h₁).symm

/-- No name of a kind holds the separator of typed ids. -/
theorem colon_notMem_id (kind : ResourceKind) : ':' ∉ kind.id.toList := by
  cases kind <;> decide

end ResourceKind
end ClusterAccess
