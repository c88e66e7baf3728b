/-
  ClusterAccess.Catalog.Principals

  Users and groups. They are not objects of the cluster but names in bindings,
  so a listing scans the subjects of all bindings: those inside namespaces, then
  those across the cluster. One listing never gives a name twice.
-/
import ClusterAccess.Distinct
import ClusterAccess.Gateway
import ClusterAccess.Resource

namespace ClusterAccess

/-- A kind of principal that exists by name only. -/
inductive PrincipalKind
  | user
  | group
  deriving DecidableEq, Repr, Inhabited

namespace PrincipalKind

/-- The kind of resource that a principal is. -/
def kind : PrincipalKind → ResourceKind
  | .user => .user
  | .group => .group

/-- The kind of subject that names a principal. -/
def subjectKind : PrincipalKind → SubjectKind
  | .user => .user
  | .group => .group

/-- The word for a principal in descriptions of entitlements. -/
def noun : PrincipalKind → String
  | .user => "user"
  | .group => "group"

/-- The names that every cluster has. -/
def builtIn : PrincipalKind → List String
  | .user => []
  | .group => ["system:masters", "system:authenticated", "system:unauthenticated"]

end PrincipalKind

/-- A listing of principals, with the names that it has given. -/
structure PrincipalListing where
  principal : PrincipalKind
  seen : List String := []
  deriving DecidableEq, Repr

namespace PrincipalListing

/-! ## Names -/

/-- The names of principals of a kind among subjects. -/
def namesAmong (principal : PrincipalKind) (subjects : List Subject) : List String :=
  (subjects.filter fun s => s.subjectKind == some principal.subjectKind && s.name != "").map
    Subject.name

/-- The resources of names. -/
def resources (principal : PrincipalKind) (names : List String) : List Resource :=
  names.map (Resource.ofPrincipal principal.kind)

/-- Gives the names that have not been given, each once. -/
def give (names : List String) : Action (Linked PrincipalListing) (List Resource) := do
  let s ← get
  let fresh := firstsAfter s.own.seen names
  set { s with own := { s.own with seen := s.own.seen ++ fresh } }
  pure (resources s.own.principal fresh)

/-! ## Pages -/

/-- The subjects of one page of bindings. -/
def subjectsPage (resume : Option String) : BindingPhase → Fetch (Page Subject)
  | .roleBindings => do
    let page ← Gateway.roleBindings resume
    pure ⟨page.items.flatMap RoleBinding.subjects, page.next⟩
  | .clusterRoleBindings => do
    let page ← Gateway.clusterRoleBindings resume
    pure ⟨page.items.flatMap ClusterRoleBinding.subjects, page.next⟩

/-- The token of the page behind one of a phase: the bindings across the cluster follow the end of
those inside namespaces. -/
def nextToken (phase : BindingPhase) (next : Option String) : Option PageToken :=
  match phase, next with
  | phase, some place => some { phase := some phase, resume := some place }
  | .roleBindings, none => some { phase := some .clusterRoleBindings }
  | .clusterRoleBindings, none => none

/-- One page of principals. The built-in names come first, on whichever page is asked for first. -/
def list (token : PageToken) : Action (Linked PrincipalListing) (Page Resource) := do
  let s ← get
  let phase := token.phase.getD .roleBindings
  let builtIn ← give s.own.principal.builtIn
  let page ← Linked.fetch (subjectsPage token.resume phase)
  let named ← give (namesAmong s.own.principal page.items)
  pure ⟨builtIn ++ named, (nextToken phase page.next).map PageToken.encode⟩

end PrincipalListing
end ClusterAccess
