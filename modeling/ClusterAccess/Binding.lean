/-
  ClusterAccess.Binding

  Bindings of subjects to roles, inside one namespace or across the cluster.
-/
import ClusterAccess.Subject

namespace ClusterAccess

/-- The kinds of roles that a binding can refer to. -/
inductive RoleRefKind
  | role
  | clusterRole
  deriving DecidableEq, Repr

namespace RoleRefKind

/-- The word that a role reference writes for its kind. -/
def name : RoleRefKind → String
  | .role => "Role"
  | .clusterRole => "ClusterRole"

/-- The kind with a word; any other spelling names none. -/
def ofName? : String → Option RoleRefKind
  | "Role" => some .role
  | "ClusterRole" => some .clusterRole
  | _ => none

end RoleRefKind

/-- The role that a binding refers to, by kind and name. -/
structure RoleRef where
  kind : String
  name : String
  apiGroup : String := ""
  deriving DecidableEq, Repr, Inhabited

namespace RoleRef

/-- The kind of the role, if it is one of the two. -/
def refKind (r : RoleRef) : Option RoleRefKind :=
  RoleRefKind.ofName? r.kind

/-- Whether a reference names the role with a kind and a name. -/
def names (kind : RoleRefKind) (name : String) (r : RoleRef) : Bool :=
  r.refKind == some kind && r.name == name

/-- A role reference as a document. -/
def toJson (r : RoleRef) : Json := .object [
  ("kind", .text r.kind),
  ("name", .text r.name),
  ("api_group", .text r.apiGroup)]

end RoleRef

/-- A binding inside one namespace. -/
structure RoleBinding where
  name : String
  ns : String
  roleRef : RoleRef
  subjects : List Subject := []
  deriving DecidableEq, Repr, Inhabited

/-- A binding across the cluster. -/
structure ClusterRoleBinding where
  name : String
  roleRef : RoleRef
  subjects : List Subject := []
  deriving DecidableEq, Repr, Inhabited

/-- A binding in a namespace as a document. -/
def RoleBinding.toJson (b : RoleBinding) : Json := .object [
  ("name", .text b.name),
  ("namespace", .text b.ns),
  ("role_ref", b.roleRef.toJson),
  ("subjects", .array (b.subjects.map Subject.toJson))]

/-- A binding across the cluster as a document. -/
def ClusterRoleBinding.toJson (b : ClusterRoleBinding) : Json := .object [
  ("name", .text b.name),
  ("role_ref", b.roleRef.toJson),
  ("subjects", .array (b.subjects.map Subject.toJson))]

/-- A binding of either kind. -/
inductive Binding
  | inNamespace (binding : RoleBinding)
  | clusterWide (binding : ClusterRoleBinding)
  deriving DecidableEq, Repr

namespace Binding

/-- The name of a binding. -/
def name : Binding → String
  | .inNamespace b => b.name
  | .clusterWide b => b.name

/-- The namespace of a binding, empty for one across the cluster. -/
def ns : Binding → String
  | .inNamespace b => b.ns
  | .clusterWide _ => ""

/-- The role that a binding refers to. -/
def roleRef : Binding → RoleRef
  | .inNamespace b => b.roleRef
  | .clusterWide b => b.roleRef

/-- The subjects of a binding. -/
def subjects : Binding → List Subject
  | .inNamespace b => b.subjects
  | .clusterWide b => b.subjects

end Binding
end ClusterAccess
