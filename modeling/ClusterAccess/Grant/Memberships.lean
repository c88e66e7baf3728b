/-
  ClusterAccess.Grant.Memberships

  From bindings to memberships: one for each subject that names a principal, in
  the order in which the bindings list them, and a record for each other one.
-/
import ClusterAccess.Grant
import ClusterAccess.Grant.Skipped

namespace ClusterAccess

/-- A subject of a binding, with the binding. -/
structure Occurrence where
  binding : Binding
  subject : Subject
  deriving DecidableEq, Repr

namespace Binding

/-- The subjects of bindings, each with its binding, in order. -/
def occurrences (bindings : List Binding) : List Occurrence :=
  bindings.flatMap fun b => b.subjects.map fun s => ⟨b, s⟩

/-- The scope that a binding gives a membership: its namespace, if it has one and scopes are
asked for. -/
def scope (confined : Bool) (b : Binding) : Option String :=
  if confined ∧ b.ns ≠ "" then some b.ns else none

end Binding

namespace Occurrence

/-- The membership of a role that an occurrence gives, or the record of leaving it out. -/
def compile (role : ResourceRef) (confined : Bool) (o : Occurrence) : Except Skipped Grant :=
  match o.subject.resolve o.binding.ns with
  | .ok principal => .ok ⟨member, principal, role, o.binding.scope confined⟩
  | .error fault => .error (.subject role o.binding.name o.binding.ns fault)

end Occurrence

/-- Grants and the records of what was left out beside them. -/
structure Compiled where
  grants : List Grant
  skipped : List Skipped
  deriving DecidableEq, Repr

/-- The memberships of a role from its bindings. With `confined`, a binding's namespace becomes the
scope of its memberships: so a cluster role bound inside one namespace is recorded. -/
def Grant.memberships (role : ResourceRef) (confined : Bool) (bindings : List Binding) : Compiled :=
  let outcomes := (Binding.occurrences bindings).map (Occurrence.compile role confined)
  { grants := outcomes.filterMap fun o => o.toOption
    skipped := outcomes.filterMap fun | .ok _ => none | .error s => some s }

end ClusterAccess
