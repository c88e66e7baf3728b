/-
  ClusterAccess.AccessGraph

  Questions about access. A principal may do a verb on a target if it is a member
  of a role that has a permission for the verb whose target covers the asked one.
  A membership of a role of a namespace, or with a scope, reaches only objects of
  that namespace: neither objects outside of namespaces nor a kind as a whole.
-/
import ClusterAccess.Grant
import ClusterAccess.Text.Order

namespace ClusterAccess

/-- The memberships and permissions among the grants given, each in order. -/
structure AccessGraph where
  memberships : List Grant := []
  permissions : List Grant := []
  deriving DecidableEq, Repr, Inhabited

/-- Why a principal may do something: a membership, and a permission of its role. -/
structure AccessPath where
  membership : Grant
  permission : Grant
  deriving DecidableEq, Repr

namespace Grant

/-- The namespace that a membership is confined to. -/
def confinement (membership : Grant) : Option String :=
  if membership.target.kind = .role then some membership.target.nsPart else membership.scope

end Grant

namespace ResourceRef

/-- Whether a confinement lets a target through. -/
def liesWithin (target : ResourceRef) : Option String → Bool
  | none => true
  | some ns => target.kind.isNamespaced && !target.isWildcard && target.nsPart == ns

/-- Whether a permission on one reference is about another of the same kind: a whole kind is about
all of it, and a bare name is about the objects of that name in every namespace. -/
def isAbout (granted target : ResourceRef) : Bool :=
  granted.isWildcard || granted.object == target.object ||
    (target.kind.isNamespaced && granted.isBare && !target.isWildcard &&
      target.namePart == granted.object)

/-- Whether a permission on `granted` covers `target` under a confinement. -/
def covers (granted : ResourceRef) (confinement : Option String) (target : ResourceRef) : Bool :=
  granted.kind == target.kind && target.liesWithin confinement && granted.isAbout target

end ResourceRef

namespace AccessGraph

/-- Adds a grant: as a membership, as a permission, or not at all. -/
def add (graph : AccessGraph) (grant : Grant) : AccessGraph :=
  if grant.isMembership then { graph with memberships := graph.memberships ++ [grant] }
  else if grant.isPermission then { graph with permissions := graph.permissions ++ [grant] }
  else graph

/-- The graph of a list of grants. -/
def ofGrants (grants : List Grant) : AccessGraph :=
  { memberships := grants.filter Grant.isMembership
    permissions := grants.filter Grant.isPermission }

/-- The memberships of a principal, in order. -/
def rolesOf (graph : AccessGraph) (principal : ResourceRef) : List Grant :=
  graph.memberships.filter fun m => m.holder = principal

/-- The permissions of a role for a verb, in order. -/
def permissionsOf (graph : AccessGraph) (role : ResourceRef) (verb : String) : List Grant :=
  graph.permissions.filter fun p => p.holder = role ∧ p.entitlement = verb

/-- The paths that begin with a membership. -/
def pathsThrough (graph : AccessGraph) (verb : String) (target : ResourceRef) (membership : Grant) :
    List AccessPath :=
  ((graph.permissionsOf membership.target verb).filter fun p =>
    p.target.covers membership.confinement target).map fun p => ⟨membership, p⟩

/-- Every path that lets a principal, or one of the groups it acts in, do a verb on a target. -/
def explain (graph : AccessGraph) (principal : ResourceRef) (verb : String) (target : ResourceRef)
    (groups : List ResourceRef) : List AccessPath :=
  (principal :: groups).flatMap fun identity =>
    (graph.rolesOf identity).flatMap (graph.pathsThrough verb target)

/-- Whether there is a path. -/
def can (graph : AccessGraph) (principal : ResourceRef) (verb : String) (target : ResourceRef)
    (groups : List ResourceRef) : Bool :=
  !(graph.explain principal verb target groups).isEmpty

/-- The holders of memberships in the order of their ids. -/
def principals (graph : AccessGraph) : List ResourceRef :=
  Text.sortDistinctBy ResourceRef.text (graph.memberships.map Grant.holder)

/-- The principals that may do a verb on a target by their own memberships. -/
def whoCan (graph : AccessGraph) (verb : String) (target : ResourceRef) : List ResourceRef :=
  graph.principals.filter fun principal => graph.can principal verb target []

/-! ## Small facts -/

theorem ofGrants_nil : ofGrants [] = {} := rfl

/-- Adding grants one by one gives the graph of all of them. -/
theorem ofGrants_concat (grants : List Grant) (grant : Grant) :
    ofGrants (grants ++ [grant]) = (ofGrants grants).add grant := by
  by_cases hm : grant.isMembership
  · have hp : grant.isPermission = false := by simp [Grant.isPermission, hm]
    simp [ofGrants, add, List.filter_append, hm, hp]
  · by_cases hp : grant.isPermission
    · simp [ofGrants, add, List.filter_append, hm, hp]
    · simp [ofGrants, add, List.filter_append, hm, hp]

end AccessGraph
end ClusterAccess
