/-
  ClusterAccess.Snapshot

  The whole cluster at once: each catalogue is listed to its end, and then its
  resources are asked one by one for their entitlements and their grants.
-/
import ClusterAccess.Catalog

namespace ClusterAccess

/-- Everything that the catalogues have, in their order. -/
structure Snapshot where
  kinds : List ResourceKind := []
  resources : List Resource := []
  entitlements : List Entitlement := []
  grants : List Grant := []
  deriving Repr, Inhabited

namespace Snapshot

/-- The resources of a kind. -/
def resourcesOf (s : Snapshot) (kind : ResourceKind) : List Resource :=
  s.resources.filter fun r => r.ref.kind = kind

/-- Snapshots of several catalogues as one. -/
def join (parts : List Snapshot) : Snapshot where
  kinds := parts.flatMap kinds
  resources := parts.flatMap resources
  entitlements := parts.flatMap entitlements
  grants := parts.flatMap grants

/-- A snapshot as a document. -/
def toJson (s : Snapshot) : Json := .object [
  ("resource_types", .array (s.kinds.map ResourceKind.toJson)),
  ("resources", .array (s.resources.map Resource.toJson)),
  ("entitlements", .array (s.entitlements.map Entitlement.toJson)),
  ("grants", .array (s.grants.map Grant.toJson))]

end Snapshot

/-! ## Tours -/

/-- A tour of one catalogue, with the bindings that all tours share. -/
structure Tour where
  catalog : Catalog
  bindings : BindingCache
  gateway : Gateway

namespace Tour

/-- An action of the catalogue. -/
def onCatalog {α : Type} (act : Action (Linked Catalog) α) : Action Tour α :=
  act.onPart (fun t => ⟨t.catalog, t.gateway⟩)
    fun l t => { t with catalog := l.own, gateway := l.gateway }

/-- An action of the bindings. -/
def onBindings {α : Type} (act : Action (Linked BindingCache) α) : Action Tour α :=
  act.onPart (fun t => ⟨t.bindings, t.gateway⟩)
    fun l t => { t with bindings := l.own, gateway := l.gateway }

/-- All resources, page by page. A listing goes through at most two lists of the server. -/
def resources : Action Tour (List Resource) := do
  let t ← get
  Gateway.followFrom (fun token => onCatalog (Catalog.list (token.getD "")))
    (2 * t.gateway.patience) [] none

/-- The entitlements and the grants of one resource. -/
def details (r : Resource) : Action Tour (List Entitlement × List Grant) := do
  let entitlements ← onCatalog (Catalog.entitlements r)
  let t ← get
  let grants ← onBindings (t.catalog.grants r)
  pure (entitlements, grants)

/-- The snapshot of one catalogue. -/
def snapshot : Action Tour Snapshot := do
  let resources ← resources
  let details ← resources.mapM details
  let t ← get
  pure {
    kinds := [t.catalog.kind]
    resources
    entitlements := details.flatMap (·.1)
    grants := details.flatMap (·.2) }

end Tour
end ClusterAccess
