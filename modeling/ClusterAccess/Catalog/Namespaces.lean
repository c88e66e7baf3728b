/-
  ClusterAccess.Catalog.Namespaces

  The names of all namespaces, kept for a while. Only a list that was read to its
  end is kept, the empty one too.
-/
import ClusterAccess.Gateway

namespace ClusterAccess

/-- The names of all namespaces as last read, and when. -/
structure NamespaceCache where
  /-- How many seconds a reading counts; one of zero seconds never does. -/
  ttl : Nat
  held : Option (List String × Int) := none
  deriving DecidableEq, Repr

namespace NamespaceCache

/-- The names, if the last reading counts at a time. -/
def current? (c : NamespaceCache) (now : Int) : Option (List String) :=
  match c.held with
  | some (names, readAt) => if now < readAt + c.ttl then some names else none
  | none => none

/-- The names of all namespaces, read anew unless the last reading counts. -/
def names : Action (Linked NamespaceCache) (List String) := do
  let s ← get
  match s.own.current? s.gateway.clock with
  | some names => pure names
  | none =>
    let names ← Linked.fetch Gateway.namespaceNames
    modify fun s => { s with own := { s.own with held := some (names, s.gateway.clock) } }
    pure names

end NamespaceCache
end ClusterAccess
