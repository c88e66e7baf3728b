/-
  ClusterAccess.Server

  What a cluster's server answers. A server is a function from calls to answers;
  it gives each object as read, or as unreadable, so that a page with an
  unreadable object can be served and refused. A server promises a bound on the
  number of pages of its lists: a list that goes on beyond it never ends.
-/
import ClusterAccess.Fault
import ClusterAccess.Manifest.Objects

namespace ClusterAccess

/-- One page of a list: its items, and where the next page begins if there is one. -/
structure Page (α : Type) where
  items : List α := []
  next : Option String := none
  deriving Repr

/-- The part of a list that a call asks for. -/
structure ListCall where
  limit : Int
  resume : Option String := none
  deriving DecidableEq, Repr

/-- The answer to a list call: objects as far as they can be read, and where the list goes on. -/
abbrev Answer (α : Type) := Except CallFailure (Page (Manifest.Reading α))

/-- The answer to a call for one object. -/
abbrev ObjectAnswer (α : Type) := Except CallFailure (Manifest.Reading α)

/-- A server. -/
structure Server where
  roles : ListCall → Answer Role
  clusterRoles : ListCall → Answer ClusterRole
  roleBindings : ListCall → Answer RoleBinding
  clusterRoleBindings : ListCall → Answer ClusterRoleBinding
  objects : Inventory → ListCall → Answer ClusterObject
  role : String → String → ObjectAnswer Role
  clusterRole : String → ObjectAnswer ClusterRole
  /-- No list has more pages than this. -/
  pageLimit : Nat

/-! ## Calls -/

/-- The lists that a server has. -/
inductive ListName
  | roles
  | clusterRoles
  | roleBindings
  | clusterRoleBindings
  | objects (inventory : Inventory)
  deriving DecidableEq, Repr

namespace ListName

/-- The name of the call that reads a list. -/
def callName : ListName → String
  | .roles => "roles"
  | .clusterRoles => "cluster_roles"
  | .roleBindings => "role_bindings"
  | .clusterRoleBindings => "cluster_role_bindings"
  | .objects i => i.kind.id

/-- The name of a list in messages. -/
def resource : ListName → String
  | .roles => "roles"
  | .clusterRoles => "clusterroles"
  | .roleBindings => "rolebindings"
  | .clusterRoleBindings => "clusterrolebindings"
  | .objects i => i.kind.id

end ListName

/-- A call to a server. -/
inductive Call
  | list (name : ListName) (call : ListCall)
  | role (ns name : String)
  | clusterRole (name : String)
  deriving DecidableEq, Repr

namespace Call

/-- The name of a call. -/
def name : Call → String
  | .list l _ => l.callName
  | .role _ _ => "get_role"
  | .clusterRole _ => "get_cluster_role"

/-- What a call is about, in messages. -/
def about : Call → CallSubject
  | .list l _ => { resource := l.resource }
  | .role ns name => { resource := "roles", name := some name, ns := some ns }
  | .clusterRole name => { resource := "clusterroles", name := some name }

/-- A call as a document. -/
def toJson (c : Call) : Json :=
  .object (("call", .text c.name) :: match c with
    | .list _ call =>
      ("limit", .int call.limit) :: PageToken.optionalField "_continue" call.resume
    | .role ns name => [("name", .text name), ("namespace", .text ns)]
    | .clusterRole name => [("name", .text name)])

end Call
end ClusterAccess
