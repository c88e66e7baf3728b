/-
  ClusterAccess.Inventory

  The kinds of plain objects: they are listed, offered as targets, and mean
  nothing to access control themselves.
-/
import ClusterAccess.ClusterObject
import ClusterAccess.ResourceKind

namespace ClusterAccess

/-- A kind of plain object. -/
inductive Inventory
  | nameSpace
  | serviceAccount
  | secret
  | configMap
  | node
  | pod
  | deployment
  | statefulSet
  | daemonSet
  deriving DecidableEq, Repr, Inhabited

namespace Inventory

/-- The kind of resource that an object becomes. -/
def kind : Inventory → ResourceKind
  | .nameSpace => .nameSpace
  | .serviceAccount => .serviceAccount
  | .secret => .secret
  | .configMap => .configMap
  | .node => .node
  | .pod => .pod
  | .deployment => .deployment
  | .statefulSet => .statefulSet
  | .daemonSet => .daemonSet

/-- Every kind of plain object. -/
def all : List Inventory := [
  .nameSpace, .serviceAccount, .secret, .configMap, .node, .pod, .deployment, .statefulSet,
  .daemonSet]

/-- The plain objects of a kind of resource. -/
def ofKind? (kind : ResourceKind) : Option Inventory :=
  all.find? fun i => i.kind = kind

/-- The word that the cluster writes for the kind. -/
def word : Inventory → String
  | .nameSpace => "Namespace"
  | .serviceAccount => "ServiceAccount"
  | .secret => "Secret"
  | .configMap => "ConfigMap"
  | .node => "Node"
  | .pod => "Pod"
  | .deployment => "Deployment"
  | .statefulSet => "StatefulSet"
  | .daemonSet => "DaemonSet"

/-- The word for one object in descriptions of entitlements. -/
def noun : Inventory → String
  | .nameSpace => "namespace"
  | .serviceAccount => "service account"
  | .secret => "secret"
  | .configMap => "configmap"
  | .node => "node"
  | .pod => "pod"
  | .deployment => "deployment"
  | .statefulSet => "statefulset"
  | .daemonSet => "daemonset"

/-- The verbs offered on every plain object. -/
def commonVerbs : List String :=
  ["get", "list", "watch", "create", "update", "patch", "delete"]

/-- The verbs offered on objects of a kind. -/
def verbs : Inventory → List String
  | .pod => commonVerbs ++ ["exec", "portforward"]
  | .deployment => commonVerbs ++ ["scale", "rollback"]
  | .statefulSet => commonVerbs ++ ["scale"]
  | _ => commonVerbs

/-- What a description says about an object's namespace. -/
def placed (label : String) (o : ClusterObject) : String :=
  label ++ " in namespace " ++ o.ns.getD "None"

/-- The description of an object, where its kind has one. -/
def describe (i : Inventory) (o : ClusterObject) : Option String :=
  match i with
  | .secret =>
    let type := ((Json.object o.attributes).field "type").orElse (.text "Opaque")
    some (placed ("Secret of type " ++ type.display) o)
  | .configMap => some (placed "ConfigMap" o)
  | .node => some "Kubernetes node"
  | .pod => some (placed "Pod" o)
  | .deployment => some (placed "Deployment" o)
  | .statefulSet => some (placed "StatefulSet" o)
  | .daemonSet => some (placed "DaemonSet" o)
  | _ => none

theorem ofKind?_kind (i : Inventory) : ofKind? i.kind = some i := by
  cases i <;> decide

end Inventory
end ClusterAccess
