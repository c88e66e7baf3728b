/-
  ClusterAccess.Resource

  Resources as they are listed, and the entitlements offered on them.
-/
import ClusterAccess.Grant
import ClusterAccess.Inventory

namespace ClusterAccess

/-- A listed resource. -/
structure Resource where
  ref : ResourceRef
  displayName : String
  description : Option String := none
  parent : Option ResourceRef := none
  traits : List Trait := []
  profile : List (String × Json) := []
  deriving Repr, Inhabited

namespace Resource

/-- A resource as a document. -/
def toJson (r : Resource) : Json := .object [
  ("id", r.ref.toJson),
  ("display_name", .text r.displayName),
  ("description", .ofText? r.description),
  ("parent_id", (r.parent.map ResourceRef.toJson).getD .null),
  ("traits", ResourceKind.traitsJson r.traits),
  ("profile", .object r.profile)]

/-- The resource that stands for a whole kind. The one of secrets says when it was made. -/
def whole (now : String) (kind : ResourceKind) : Resource :=
  let name := "All " ++ kind.title
  { ref := .all kind
    displayName := name
    description := some (if kind = .secret then "Represents all secrets in the cluster"
      else "Represents all resources of type " ++ kind.title)
    traits := kind.traits
    profile := [("name", .text name), ("uid", .text ("wildcard-" ++ kind.id))] ++
      if kind = .secret then [("created_at", .text now)] else [] }

/-- The reference to an object: in its namespace where its kind has one. -/
def refOf (kind : ResourceKind) (o : ClusterObject) : Except RefFault ResourceRef :=
  if kind.isNamespaced then ResourceRef.makeNamespaced kind (o.ns.getD "") o.name
  else ResourceRef.make kind o.name

/-- A field of a profile, unless the value is empty. -/
def profileField (key : String) (value : Json) : List (String × Json) :=
  if value.isEmpty then [] else [(key, value)]

/-- What an object says about itself; attributes without a value are left out. -/
def profileOf (o : ClusterObject) : List (String × Json) :=
  [("name", .text o.name),
    ("uid", .text (o.uid.getD "")),
    ("creationTimestamp", .text ((o.createdAt.map Timestamp.profileText).getD ""))] ++
  profileField "namespace" (.ofText? o.ns) ++
  profileField "labels" (ClusterObject.textMap o.labels) ++
  profileField "annotations" (ClusterObject.textMap o.annotations) ++
  o.attributes.filter fun | (_, .null) => false | _ => true

/-- The namespace that an object hangs under. -/
def parentOf (kind : ResourceKind) (o : ClusterObject) : Option ResourceRef :=
  if kind.isNamespaced then
    match o.ns with
    | some ns => (ResourceRef.ofNamespace ns).toOption
    | none => none
  else none

/-- The resource that an object is; an object without the names it needs is none. -/
def ofObject (kind : ResourceKind) (description : Option String) (o : ClusterObject) :
    Except RefFault Resource := do
  let ref ← refOf kind o
  pure {
    ref
    displayName := o.name
    description
    parent := parentOf kind o
    traits := kind.traits
    profile := profileOf o }

/-- The resource that a plain object is. -/
def ofInventory (i : Inventory) (o : ClusterObject) : Except RefFault Resource :=
  ofObject i.kind (i.describe o) o

/-- The resource that a role is. -/
def ofRole (r : Role) : Except RefFault Resource :=
  ofObject .role none r.object

/-- The resource that a cluster role is. -/
def ofClusterRole (r : ClusterRole) : Except RefFault Resource := do
  let resource ← ofObject .clusterRole none r.object
  pure { resource with
    profile := resource.profile ++ match r.aggregation with
      | some rule => [("aggregationRule", .object rule)]
      | none => [] }

/-- The resource that a user or group is: it is known by its name only. -/
def ofPrincipal (kind : ResourceKind) (name : String) : Resource :=
  { ref := ⟨kind, name⟩
    displayName := name
    traits := kind.traits
    profile := [("name", .text name)] }

end Resource

/-- What an entitlement gives: a place in a role, or something to do. -/
inductive Purpose
  | assignment
  | permission
  deriving DecidableEq, Repr

/-- The name of a purpose. -/
def Purpose.name : Purpose → String
  | .assignment => "assignment"
  | .permission => "permission"

/-- Something that can be granted on a resource, to holders of some kinds. -/
structure Entitlement where
  slug : String
  resource : ResourceRef
  purpose : Purpose
  displayName : String
  description : String
  grantableTo : List ResourceKind
  deriving DecidableEq, Repr

namespace Entitlement

/-- The id of an entitlement: its resource and its slug. -/
def id (e : Entitlement) : String :=
  e.resource.text ++ ":" ++ e.slug

/-- An entitlement as a document. -/
def toJson (e : Entitlement) : Json := .object [
  ("slug", .text e.slug),
  ("resource", e.resource.toJson),
  ("purpose", .text e.purpose.name),
  ("display_name", .text e.displayName),
  ("description", .text e.description),
  ("grantable_to", .ofTexts (e.grantableTo.map ResourceKind.id)),
  ("id", .text e.id)]

/-- The kinds that hold permissions. -/
def roleHolders : List ResourceKind := [.role, .clusterRole]

/-- The kinds that hold memberships. -/
def principals : List ResourceKind := [.user, .group, .serviceAccount]

/-- An entitlement to do something. -/
def permission (r : Resource) (slug displayName description : String) : Entitlement :=
  ⟨slug, r.ref, .permission, displayName, description, roleHolders⟩

/-- An entitlement to a place in a role. -/
def membership (r : Resource) (slug displayName description : String) : Entitlement :=
  ⟨slug, r.ref, .assignment, displayName, description, principals⟩

/-- The entitlement to a verb. -/
def ofVerb (noun : String) (r : Resource) (verb : String) : Entitlement :=
  permission r verb (verb ++ " " ++ r.displayName)
    ("Grants " ++ verb ++ " permission on the " ++ r.displayName ++ " " ++ noun)

/-- The entitlement to act as a principal. -/
def impersonate (noun : String) (r : Resource) : Entitlement :=
  permission r "impersonate" ("Impersonate " ++ r.displayName)
    ("Grants the ability to impersonate the " ++ r.displayName ++ " " ++ noun)

/-- The entitlements on a plain object. A service account is a principal: it can be acted as. -/
def ofInventory (i : Inventory) (r : Resource) : List Entitlement :=
  if i = .serviceAccount then [impersonate i.noun r] else i.verbs.map (ofVerb i.noun r)

/-- The entitlements on a role of a namespace. -/
def ofRole (r : Resource) : List Entitlement :=
  let name := r.displayName
  [membership r member (name ++ " Role Member") ("Grants membership to the " ++ name ++ " role"),
    permission r "bind" ("Bind " ++ name)
      ("Grants the ability to bind the " ++ name ++
        " role to subjects without having the permissions it grants"),
    permission r "escalate" ("Escalate " ++ name)
      ("Grants the ability to escalate the " ++ name ++
        " role to include permissions the holder does not have")]

/-- The entitlement to a cluster role across the cluster. -/
def clusterWide (r : Resource) : Entitlement :=
  membership r ("all:" ++ member) (r.displayName ++ " Cluster Role Member")
    ("Grants membership to the " ++ r.displayName ++ " cluster role")

/-- The entitlement to a cluster role inside one namespace. -/
def within (r : Resource) (ns : String) : Entitlement :=
  membership r (ns ++ ":" ++ member)
    ("\"" ++ r.displayName ++ "\" Cluster Role Member in \"" ++ ns ++ "\" namespace")
    ("Grants membership to the \"" ++ r.displayName ++ "\" cluster role in namespace \"" ++ ns ++
      "\"")

/-- The entitlements on a cluster role: across the cluster, and inside each namespace. -/
def ofClusterRole (namespaces : List String) (r : Resource) : List Entitlement :=
  clusterWide r :: namespaces.map (within r)

end Entitlement
end ClusterAccess
