/-
  ClusterAccess.Auditor

  The auditor of one cluster. It owns the way to the server, the bindings that
  all catalogues share, the listings that callers have not finished, and the
  graph of the last snapshot.
-/
import ClusterAccess.AccessGraph
import ClusterAccess.Endpoint
import ClusterAccess.Snapshot
import ClusterAccess.TimedCache

namespace ClusterAccess

/-- The auditor of a cluster. -/
structure Auditor where
  settings : Settings
  gateway : Gateway
  bindings : BindingCache
  /-- The catalogues that answer single questions. -/
  catalogs : List Catalog
  /-- Unfinished listings by id, each with a catalogue of its own. -/
  listings : TimedCache String Catalog
  graph : Option AccessGraph := none
  /-- How many ids have been given out. -/
  issued : Nat := 0

namespace Auditor

/-- How many listings may be unfinished. -/
def listingCapacity : Nat := 1024

/-- New catalogues of every kind. -/
def freshCatalogs (s : Settings) : List Catalog :=
  Catalog.fresh s.syncPods s.namespaceTtl

/-- An auditor that has done nothing yet. -/
def ofGateway (settings : Settings) (gateway : Gateway) : Auditor where
  settings
  gateway := { gateway with pageSize := settings.pageSize }
  bindings := { ttl := settings.bindingTtl }
  catalogs := freshCatalogs settings
  listings := { capacity := listingCapacity, ttl := settings.listingTtl }

/-! ## Parts -/

/-- An action that only needs the way to the server. -/
def fetch {α : Type} (act : Fetch α) : Action Auditor α :=
  act.onPart gateway fun g a => { a with gateway := g }

/-- An action of a catalogue, which `store` puts back. -/
def onCatalog {α : Type} (c : Catalog) (store : Catalog → Auditor → Auditor)
    (act : Action (Linked Catalog) α) : Action Auditor α :=
  act.onPart (fun a => ⟨c, a.gateway⟩) fun l a => store l.own { a with gateway := l.gateway }

/-- An action of the shared bindings. -/
def onBindings {α : Type} (act : Action (Linked BindingCache) α) : Action Auditor α :=
  act.onPart (fun a => ⟨a.bindings, a.gateway⟩)
    fun l a => { a with bindings := l.own, gateway := l.gateway }

/-- A tour of a catalogue, which is forgotten afterwards. -/
def tour {α : Type} (c : Catalog) (act : Action Tour α) : Action Auditor α :=
  act.onPart (fun a => ⟨c, a.bindings, a.gateway⟩)
    fun t a => { a with bindings := t.bindings, gateway := t.gateway }

/-! ## Catalogues -/

/-- The catalogue of a kind. -/
def catalogOf? (catalogs : List Catalog) (kindName : String) : Option Catalog :=
  catalogs.find? fun c => c.kind.id = kindName

/-- The catalogue that answers single questions about a kind. -/
def catalog (kindName : String) : Action Auditor Catalog := do
  let a ← get
  match catalogOf? a.catalogs kindName with
  | some c => pure c
  | none => throw (.noCatalog kindName)

/-- Puts a catalogue back in its place. -/
def putCatalog (c : Catalog) (a : Auditor) : Auditor :=
  { a with catalogs := a.catalogs.map fun old => if old.kind = c.kind then c else old }

/-- One page of the resources of a kind, from the catalogue that answers single questions. -/
def list (kindName token : String) : Action Auditor (Page Resource) := do
  let c ← catalog kindName
  onCatalog c putCatalog (Catalog.list token)

/-- The entitlements on a resource. -/
def entitlements (kindName : String) (r : Resource) : Action Auditor (List Entitlement) := do
  let c ← catalog kindName
  onCatalog c putCatalog (Catalog.entitlements r)

/-- The grants of a resource. -/
def grants (kindName : String) (r : Resource) : Action Auditor (List Grant) := do
  let c ← catalog kindName
  onBindings (c.grants r)

/-- The names of all namespaces. -/
def namespaces : Action Auditor (List String) := do
  let c ← catalog ResourceKind.clusterRole.id
  onCatalog c putCatalog Catalog.namespaces

/-! ## Listings -/

/-- Gives out the next id. -/
def issue : Action Auditor Nat := do
  let a ← get
  set { a with issued := a.issued + 1 }
  pure (a.issued + 1)

/-- The text of a listing's id: no two ids have the same. -/
def listingId (n : Nat) : String :=
  String.ofList (Text.hexAtLeast 32 n)

/-- Begins a listing of the catalogue's kind. -/
def beginListing (c : Catalog) : Action Auditor (String × Catalog) := do
  let n ← issue
  let a ← get
  pure (listingId n, (catalogOf? (freshCatalogs a.settings) c.kind.id).getD c)

/-- Finds an unfinished listing of a kind again. -/
def resumeListing (kind : ResourceKind) (id : String) : Action Auditor (String × Catalog) := do
  let a ← get
  let now := a.gateway.clock
  set { a with listings := a.listings.touch now id }
  match a.listings.get? now id with
  | some c => if c.kind = kind then pure (id, c) else throw (.token (.notOpen kind))
  | none => throw (.token (.notOpen kind))

/-- One page of a listing's catalogue, and the catalogue behind it. A failed page leaves the listing
where it was, with all that its catalogue has noted down. -/
def listingPage (id : String) (c : Catalog) (token : String) :
    Action Auditor (Page Resource × Catalog) :=
  onCatalog c (fun c a => { a with listings := a.listings.update id fun _ => c }) do
    let page ← Catalog.list token
    let l ← get
    pure (page, l.own)

/-- Stores an unfinished listing and marks its token, or forgets a finished one. -/
def closePage (id : String) (c : Catalog) (page : Page Resource) :
    Action Auditor (Page Resource) := do
  let a ← get
  match page.next with
  | none =>
    set { a with listings := a.listings.erase id }
    pure page
  | some next =>
    set { a with listings := a.listings.insert a.gateway.clock id c }
    let t ← Action.ofExcept .token (PageToken.decode next)
    pure { page with next := some ({ t with listing := some id } : PageToken).encode }

/-- One page of a listing that an outside caller drives. Its first page opens it; each token names
the listing that it goes on with. -/
def listPage (kindName token : String) : Action Auditor (Page Resource) := do
  let c ← catalog kindName
  let t ← Action.ofExcept .token (PageToken.decode token)
  let (id, c) ← match t.listing with
    | none => beginListing c
    | some id => resumeListing c.kind id
  let (page, c) ← listingPage id c token
  closePage id c page

/-! ## Snapshots and graphs -/

/-- A snapshot of the whole cluster. -/
def snapshot : Action Auditor Snapshot := do
  let a ← get
  let parts ← (freshCatalogs a.settings).mapM fun c => tour c Tour.snapshot
  pure (Snapshot.join parts)

/-- The graph of the last snapshot; the first call, or `refresh`, takes a new one. -/
def accessGraph (refresh : Bool) : Action Auditor AccessGraph := do
  let a ← get
  match a.graph, refresh with
  | some graph, false => pure graph
  | _, _ => do
    let s ← snapshot
    let graph := AccessGraph.ofGrants s.grants
    modify fun a => { a with graph := some graph }
    pure graph

/-- Sees whether the cluster can be reached and lets us in. -/
def probe : Action Auditor Unit :=
  fetch Gateway.probe

/-- What an auditor says about itself. A cluster whose name is no text cannot be told. -/
def metadata (a : Auditor) : Except Fault Json :=
  match a.gateway.connection.displayName.looseText? with
  | some name => .ok (.object [
      ("display_name", .text "Kubernetes"),
      ("description", .text "Connector for Kubernetes resources and RBAC permissions"),
      ("cluster", .text name)])
  | none => .error (.malformed (.fields [⟨["cluster"], .notText⟩]))

end Auditor
end ClusterAccess
