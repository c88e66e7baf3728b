/-
  ClusterAccess.Proofs.Holdings

  What a snapshot of a cluster comes to, said of what the cluster holds alone. The
  server is free in how it divides its lists into pages, and may do so differently
  for every size that is asked for; neither pages nor calls nor caches appear here.
-/
import ClusterAccess.Auditor
import ClusterAccess.Proofs.ContentGrants
import ClusterAccess.Proofs.PrincipalNames

namespace ClusterAccess

/-! ## Holdings -/

/-- A list of objects, as far as they can be read, or the failure that every call for it meets. -/
abbrev Held (α : Type) := Except CallFailure (List (Manifest.Reading α))

/-- What a list is read as: all of its objects, or the first fault. -/
def Held.read {α : Type} (name : ListName) (held : Held α) : Except Fault (List α) := do
  let objects ← held.mapError (.ofFailure { resource := name.resource })
  Gateway.readAs objects

/-- What a cluster holds: its lists, and its answers to calls for one role. -/
structure Holdings where
  roles : Held Role
  clusterRoles : Held ClusterRole
  roleBindings : Held RoleBinding
  clusterRoleBindings : Held ClusterRoleBinding
  objects : Inventory → Held ClusterObject
  role : String → String → ObjectAnswer Role
  clusterRole : String → ObjectAnswer ClusterRole

/-! ## Servers -/

namespace Server

variable {α : Type}

/-- In pages of one size, a list is served from its beginning to its end, in no more pages than the
server promises, or it is refused. -/
def Lists (server : Server) (serve : ListCall → Answer α) (size : Nat) : Held α → Prop
  | .ok objects => ∃ n ≤ server.pageLimit, Divides serve size n none objects
  | .error failure => 0 < server.pageLimit ∧ serve ⟨size, none⟩ = .error failure

/-- In pages of one size, a server shows what is held and nothing else. -/
structure Shows (server : Server) (h : Holdings) (size : Nat) : Prop where
  roles : server.Lists server.roles size h.roles
  clusterRoles : server.Lists server.clusterRoles size h.clusterRoles
  roleBindings : server.Lists server.roleBindings size h.roleBindings
  clusterRoleBindings : server.Lists server.clusterRoleBindings size h.clusterRoleBindings
  objects : ∀ i, server.Lists (server.objects i) size (h.objects i)
  role : server.role = h.role
  clusterRole : server.clusterRole = h.clusterRole

variable {server : Server} {serve : ListCall → Answer α} {held : Held α} {size : Nat}

/-- A server that serves a list promises at least one page. -/
theorem Lists.pageLimit_pos (h : server.Lists serve size held) : 0 < server.pageLimit := by
  cases held with
  | error failure => exact h.1
  | ok objects =>
    obtain ⟨n, hn, hdivides⟩ := h
    cases hdivides <;> omega

/-- Asking page by page comes to what the list is read as. -/
theorem Lists.exists_walk (h : server.Lists serve size held) (name : ListName) :
    ∃ n ≤ server.pageLimit, Gateway.Walk (Gateway.asking name serve size) n none
      (held.read name) := by
  cases held with
  | error failure => exact ⟨1, h.1, Gateway.walk_of_refused rfl h.2⟩
  | ok objects =>
    obtain ⟨n, hn, hdivides⟩ := h
    obtain ⟨k, hk, hwalk⟩ := Gateway.walk_of_divides hdivides rfl
    exact ⟨k, Nat.le_trans hk hn, hwalk⟩

end Server

/-! ## Lists cut at positions -/

namespace Held

variable {α : Type}

/-- The text of a position, which has as many marks. -/
def placeAt (position : Nat) : String :=
  String.ofList (List.replicate position '+')

/-- A list that is cut by the limit of each call: at most so many objects from a place on, and the
place right behind them if there are more. -/
def serve (held : Held α) (call : ListCall) : Answer α :=
  held.map fun objects =>
    let start := (call.resume.getD "").length
    let stop := start + call.limit.toNat
    { items := (objects.drop start).take call.limit.toNat
      next := if stop < objects.length then some (placeAt stop) else none }

/-- A bound on the number of pages. -/
def pageBound : Held α → Nat
  | .ok objects => objects.length + 1
  | .error _ => 1

theorem length_placeAt (position : Nat) : (placeAt position).length = position := by
  rw [placeAt, String.length_ofList, List.length_replicate]

theorem placeOf_placeAt {position : Nat} (hposition : 0 < position) :
    Gateway.placeOf (some (placeAt position)) = some (placeAt position) := by
  have hne : placeAt position ≠ "" := by
    intro heq
    have hlength := length_placeAt position
    rw [heq, String.length_empty] at hlength
    omega
  simp [Gateway.placeOf, hne]

/-- From any position on, a list that is cut by limits is divided. -/
theorem divides_drop {size : Nat} (hsize : 0 < size) {objects : List (Manifest.Reading α)}
    {pages start : Nat} {place : Option String} (hpages : objects.length - start < pages)
    (hplace : (place.getD "").length = start) :
    ∃ n ≤ pages, Server.Divides (serve (.ok objects)) size n place (objects.drop start) := by
  -- By the bound on the pages: each page that is not the last one leaves a shorter list behind it.
  induction pages generalizing start place with
  | zero => omega
  | succ pages ih =>
    have hserve : serve (.ok objects) ⟨size, place⟩ = .ok ⟨(objects.drop start).take size,
        if start + size < objects.length then some (placeAt (start + size)) else none⟩ := by
      simp only [serve, hplace, Int.toNat_natCast]
      rfl
    by_cases hmore : start + size < objects.length
    case pos =>
      rw [if_pos hmore] at hserve
      have hbehind : ((some (placeAt (start + size))).getD "").length = start + size :=
        length_placeAt (start + size)
      obtain ⟨n, hn, hrest⟩ := ih (by omega) hbehind
      have hsplit : (objects.drop start).take size ++ objects.drop (start + size) =
          objects.drop start := by
        rw [← List.drop_drop, List.take_append_drop]
      rw [← hsplit]
      exact ⟨n + 1, by omega, .more hserve (placeOf_placeAt (by omega)) hrest⟩
    case neg =>
      rw [if_neg hmore, List.take_of_length_le (by rw [List.length_drop]; omega)] at hserve
      exact ⟨1, by omega, .last hserve rfl⟩

/-- A list that is cut by limits is listed in pages of every size. -/
theorem lists_serve (held : Held α) {server : Server} (hbound : held.pageBound ≤ server.pageLimit)
    {size : Nat} (hsize : 0 < size) : server.Lists held.serve size held := by
  cases held with
  | error failure => exact ⟨hbound, rfl⟩
  | ok objects =>
    have hlength : objects.length - 0 < objects.length + 1 := by omega
    have hstart : ((none : Option String).getD "").length = 0 := rfl
    obtain ⟨n, hn, hdivides⟩ := divides_drop hsize hlength hstart
    exact ⟨n, Nat.le_trans hn hbound, hdivides⟩

end Held

namespace Holdings

/-- A server that cuts every list by the limit of each call. -/
def server (h : Holdings) : Server where
  roles := h.roles.serve
  clusterRoles := h.clusterRoles.serve
  roleBindings := h.roleBindings.serve
  clusterRoleBindings := h.clusterRoleBindings.serve
  objects i := (h.objects i).serve
  role := h.role
  clusterRole := h.clusterRole
  pageLimit := h.roles.pageBound + h.clusterRoles.pageBound + h.roleBindings.pageBound +
    h.clusterRoleBindings.pageBound +
    Inventory.all.foldr (fun i bound => (h.objects i).pageBound + bound) 0

/-- Whatever a cluster holds, a server that cuts its lists by limits shows it in pages of every
size. -/
theorem shows_server (h : Holdings) {size : Nat} (hsize : 0 < size) : h.server.Shows h size where
  roles := h.roles.lists_serve (by simp only [server]; omega) hsize
  clusterRoles := h.clusterRoles.lists_serve (by simp only [server]; omega) hsize
  roleBindings := h.roleBindings.lists_serve (by simp only [server]; omega) hsize
  clusterRoleBindings := h.clusterRoleBindings.lists_serve (by simp only [server]; omega) hsize
  objects i := by
    refine (h.objects i).lists_serve ?_ hsize
    cases i <;> simp only [server, Inventory.all, List.foldr_cons] <;> omega
  role := rfl
  clusterRole := rfl

end Holdings

/-! ## Readable holdings -/

/-- A list of readable objects that is divided is served. -/
theorem Server.serves_of_divides {α : Type} {serve : ListCall → Answer α} {limit : Int} {n : Nat}
    {place : Option String} {objects : List (Manifest.Reading α)}
    (h : Divides serve limit n place objects) {items : List α} (hitems : objects = items.map .ok) :
    Serves serve limit n place items := by
  induction h generalizing items with
  | last hserve hnext =>
    rw [hitems] at hserve
    exact .last hserve hnext
  | more hserve hnext _ ih =>
    -- The first page and the rest are readable, as the whole is.
    obtain ⟨first, rest, rfl, rfl, rfl⟩ := List.map_eq_append_iff.1 hitems.symm
    exact .more hserve hnext (ih rfl)

namespace Contents

/-- The contents as they are held: every object can be read, and no other role is there. -/
def holdings (c : Contents) : Holdings where
  roles := .ok (c.roles.map .ok)
  clusterRoles := .ok (c.clusterRoles.map .ok)
  roleBindings := .ok (c.roleBindings.map .ok)
  clusterRoleBindings := .ok (c.clusterRoleBindings.map .ok)
  objects i := .ok ((c.objects i).map .ok)
  role ns name :=
    match c.role? ns name with
    | some r => .ok (.ok r)
    | none => .error (.api (some 404) none)
  clusterRole name :=
    match c.clusterRole? name with
    | some r => .ok (.ok r)
    | none => .error (.api (some 404) none)

/-- Whatever the contents, a server that cuts their lists by limits delivers them. -/
theorem delivers_server (c : Contents) {size : Nat} (hsize : 0 < size) :
    c.holdings.server.Delivers size c := by
  have hshows : c.holdings.server.Shows c.holdings size := c.holdings.shows_server hsize
  have hwhole {α : Type} {serve : ListCall → Answer α} {items : List α}
      (h : c.holdings.server.Lists serve size (.ok (items.map .ok))) :
      ∃ n ≤ c.holdings.server.pageLimit, Server.Serves serve size n none items := by
    obtain ⟨n, hn, hdivides⟩ := h
    exact ⟨n, hn, Server.serves_of_divides hdivides rfl⟩
  exact {
    roles := hwhole hshows.roles
    clusterRoles := hwhole hshows.clusterRoles
    roleBindings := hwhole hshows.roleBindings
    clusterRoleBindings := hwhole hshows.clusterRoleBindings
    objects := fun i => hwhole (hshows.objects i)
    role := fun hr => by simp only [Holdings.server, holdings, hr]
    clusterRole := fun hr => by simp only [Holdings.server, holdings, hr] }

end Contents

/-! ## Snapshots -/

namespace Holdings

/-- All bindings: those inside namespaces are read first. -/
def bindings (h : Holdings) : Except Fault Contents := do
  let roleBindings ← h.roleBindings.read .roleBindings
  let clusterRoleBindings ← h.clusterRoleBindings.read .clusterRoleBindings
  pure { roleBindings, clusterRoleBindings }

/-- The names of all namespaces. -/
def namespaces (h : Holdings) : Except Fault (List String) := do
  let objects ← (h.objects .nameSpace).read (.objects .nameSpace)
  pure (objects.map ClusterObject.name)

/-- A role of a namespace by name. -/
def roleAt (h : Holdings) (ns name : String) : Except Fault Role := do
  let answer ← (h.role ns name).mapError (.ofFailure (Call.role ns name).about)
  answer.mapError .malformed

/-- A role of the cluster by name. -/
def clusterRoleAt (h : Holdings) (name : String) : Except Fault ClusterRole := do
  let answer ← (h.clusterRole name).mapError (.ofFailure (Call.clusterRole name).about)
  answer.mapError .malformed

/-- The resources that a list is read as, behind the one of its whole kind. -/
def listed {α : Type} (now : String) (kind : ResourceKind) (name : ListName)
    (toResource : α → Except RefFault Resource) (held : Held α) : Except Fault (List Resource) :=
  (held.read name).map (Catalog.resourcesOf now kind toResource true)

/-- The resources of a new catalogue. -/
def resources (h : Holdings) (now : String) : Catalog → Except Fault (List Resource)
  | .inventory i => listed now i.kind (.objects i) (Resource.ofInventory i) (h.objects i)
  | .roles => listed now .role .roles Resource.ofRole h.roles
  | .clusterRoles _ => listed now .clusterRole .clusterRoles Resource.ofClusterRole h.clusterRoles
  | .principals listing => do
    let c ← h.bindings
    pure (PrincipalListing.resources listing.principal
      (PrincipalListing.everyone listing.principal c.roleBindings c.clusterRoleBindings))

/-- The entitlements on a resource of a catalogue. -/
def entitlements (h : Holdings) (r : Resource) : Catalog → Except Fault (List Entitlement)
  | .inventory i => pure (Entitlement.ofInventory i r)
  | .roles => pure (Entitlement.ofRole r)
  | .clusterRoles _ => do
    let names ← h.namespaces
    pure (Entitlement.ofClusterRole names r)
  | .principals listing => pure [Entitlement.impersonate listing.principal.noun r]

/-- The bindings of a namespace to a role in it. -/
def bindingsOfRole (h : Holdings) (ns name : String) : Except Fault (List RoleBinding) := do
  let c ← h.bindings
  pure (c.bindingsOfRole ns name)

/-- The bindings to a role of the cluster: those inside namespaces, and those across the cluster. -/
def bindingsOfClusterRole (h : Holdings) (name : String) :
    Except Fault (List RoleBinding × List ClusterRoleBinding) := do
  let c ← h.bindings
  pure (c.confinedTo name, c.clusterWideTo name)

/-- The grants of a role of a namespace. -/
def grantsOfRole (h : Holdings) (ref : ResourceRef) : Except Fault (List Grant) := do
  if ref.isWildcard then return []
  let (ns, name) ← (ResourceRef.splitNamespaced ref.object).mapError .ref
  let role ← h.roleAt ns name
  let bindings ← h.bindingsOfRole ns name
  pure ((Grant.memberships ref false (bindings.map .inNamespace)).grants ++
    (Grant.permissions ref ns role.rules).grants)

/-- The grants of a role of the cluster. -/
def grantsOfClusterRole (h : Holdings) (ref : ResourceRef) : Except Fault (List Grant) := do
  if ref.isWildcard then return []
  let (confined, clusterWide) ← h.bindingsOfClusterRole ref.object
  let role ← h.clusterRoleAt ref.object
  pure ((Grant.memberships ref false (clusterWide.map .clusterWide)).grants ++
    (Grant.memberships ref true (confined.map .inNamespace)).grants ++
    (Grant.permissions ref "" role.rules).grants)

/-- The grants of a resource of a catalogue. -/
def grants (h : Holdings) (r : Resource) : Catalog → Except Fault (List Grant)
  | .roles => h.grantsOfRole r.ref
  | .clusterRoles _ => h.grantsOfClusterRole r.ref
  | _ => pure []

/-- The entitlements and the grants of one resource. -/
def details (h : Holdings) (c : Catalog) (r : Resource) :
    Except Fault (List Entitlement × List Grant) := do
  let entitlements ← h.entitlements r c
  let grants ← h.grants r c
  pure (entitlements, grants)

/-- What a snapshot has of a new catalogue. -/
def part (h : Holdings) (now : String) (c : Catalog) : Except Fault Snapshot := do
  let resources ← h.resources now c
  let details ← resources.mapM (h.details c)
  pure {
    kinds := [c.kind]
    resources
    entitlements := details.flatMap (·.1)
    grants := details.flatMap (·.2) }

/-- What a snapshot has, or the first fault that it meets. -/
def snapshot (h : Holdings) (now : String) (settings : Settings) : Except Fault Snapshot := do
  let parts ← (Auditor.freshCatalogs settings).mapM (h.part now)
  pure (Snapshot.join parts)

end Holdings
end ClusterAccess
