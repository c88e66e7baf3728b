/-
  ClusterAccess.Grant

  Edges of the access graph: a membership leads from a principal to a role, a
  permission from a role to what one of its rules is about. A scope confines a
  membership of a cluster role to one namespace.
-/
import ClusterAccess.ResourceRef

namespace ClusterAccess

/-- The entitlement of memberships. -/
def member : String := "member"

/-- One edge: `holder` has `entitlement` on `target`. -/
structure Grant where
  entitlement : String
  holder : ResourceRef
  target : ResourceRef
  scope : Option String := none
  deriving DecidableEq, Repr, Inhabited

namespace Grant

/-- The word before `member` in the slug of a cluster role membership. An empty scope counts as
none. -/
def scopeSlug (scope : Option String) : String :=
  match scope with
  | none => "all"
  | some ns => if ns = "" then "all" else ns

/-- The slug of the entitlement that a grant is of. Memberships of cluster roles tell their
scope. -/
def slug (g : Grant) : String :=
  if g.entitlement = member ∧ g.target.kind = .clusterRole then scopeSlug g.scope ++ ":" ++ member
  else g.entitlement

/-- Whether a grant makes its holder a member of a role. -/
def isMembership (g : Grant) : Bool :=
  g.entitlement == member && g.target.kind.isRole

/-- Whether a grant gives a role something other than membership of a role. -/
def isPermission (g : Grant) : Bool :=
  !g.isMembership && g.holder.kind.isRole

/-- A grant as a document. -/
def toJson (g : Grant) : Json := .object [
  ("entitlement", .text g.entitlement),
  ("holder", g.holder.toJson),
  ("target", g.target.toJson),
  ("scope", .ofText? g.scope),
  ("entitlement_slug", .text g.slug)]

end Grant
end ClusterAccess
