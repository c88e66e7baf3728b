/-
  ClusterAccess.Proofs.Snapshots

  A snapshot of a server with fixed contents has the grants of the contents, and
  nothing but them: each tour gives those of its kind, from every memory that a
  catalogue and the bindings may have, and leaves them fit for the next tour.
-/
import ClusterAccess.Auditor
import ClusterAccess.Proofs.Listings

namespace ClusterAccess

/-! ## References of listed resources -/

namespace Resource

theorem exists_ofRole {contents : Contents} (hnamed : contents.RolesNamed) {r : Role}
    (hr : r ∈ contents.roles) : ∃ resource, ofRole r = .ok resource ∧ resource.ref = r.ref := by
  obtain ⟨ns, hns, hne, -, hname, -, hboth⟩ := hnamed.role r hr
  have href : refOf .role r.object = .ok r.ref := by
    rw [refOf, if_pos (by decide), Role.ref, hns, Option.getD_some,
      ResourceRef.makeNamespaced_of_parts _ hne hname hboth]
  rw [ofRole, ofObject, href]
  exact ⟨_, rfl, rfl⟩

theorem exists_ofClusterRole {contents : Contents} (hnamed : contents.RolesNamed)
    {r : ClusterRole} (hr : r ∈ contents.clusterRoles) :
    ∃ resource, ofClusterRole r = .ok resource ∧ resource.ref = r.ref := by
  have hname : r.object.name ≠ "" := (hnamed.clusterRole r hr).1
  have href : refOf .clusterRole r.object = .ok r.ref := by
    rw [refOf, if_neg (by decide), ResourceRef.make, if_neg hname]
    rfl
  rw [ofClusterRole, ofObject, href]
  exact ⟨_, rfl, rfl⟩

end Resource

/-! ## Details -/

namespace Catalog

variable {contents : Contents} {server : Server} {size : Nat} {c : Catalog}

theorem yields_names (h : server.Delivers size contents) :
    Action.Yields (fun l : Linked NamespaceCache => l.gateway.Reaches server size)
      NamespaceCache.names fun _ => True := by
  refine Action.yields_get.bind fun l _ => ?_
  -- Names that are remembered are given without a call.
  cases l.own.current? l.gateway.clock with
  | some names => exact Action.yields_pure trivial
  | none =>
    have hread : Action.Yields (fun l : Linked NamespaceCache => l.gateway.Reaches server size)
        (Linked.fetch Gateway.namespaceNames) fun _ => True :=
      ((Gateway.yields_namespaceNames (h.objects .nameSpace)).mono fun _ _ => trivial).onPart
        (fun _ hl => hl) fun _ _ hg _ => hg
    refine hread.bind fun names _ => ?_
    refine Action.Yields.bind (Action.yields_modify fun l hl => hl) fun _ _ => ?_
    exact Action.yields_pure trivial

/-- Every catalogue can tell the names of namespaces as far as it needs them. -/
theorem yields_namespaces (h : server.Delivers size contents) :
    Action.Yields (Serving c server size) namespaces fun _ => True := by
  refine Action.yields_get.bind fun l hl => ?_
  cases c with
  | inventory i =>
    rw [eq_inventory_of_alike hl.1]
    exact Action.yields_pure trivial
  | roles =>
    rw [eq_roles_of_alike hl.1]
    exact Action.yields_pure trivial
  | clusterRoles cache =>
    obtain ⟨cache', hown⟩ := exists_clusterRoles_of_alike hl.1
    rw [hown]
    exact (yields_names h).onPart (fun _ hl => hl.2) fun _ _ hg _ => ⟨trivial, hg⟩
  | principals listing =>
    obtain ⟨listing', hown⟩ := exists_principals_of_alike hl.1
    rw [hown]
    exact Action.yields_pure trivial

/-- Every resource has its entitlements told. -/
theorem yields_entitlements (h : server.Delivers size contents) (r : Resource) :
    Action.Yields (Serving c server size) (entitlements r) fun _ => True := by
  refine Action.yields_get.bind fun l hl => ?_
  cases l.own with
  | inventory i => exact Action.yields_pure trivial
  | roles => exact Action.yields_pure trivial
  | clusterRoles cache => exact (yields_namespaces h).bind fun _ _ => Action.yields_pure trivial
  | principals listing => exact Action.yields_pure trivial

end Catalog

namespace Tour

variable {contents : Contents} {server : Server} {size : Nat} {c : Catalog} {α : Type}

/-- The details of a resource have the grants that a catalogue of its sort knows. -/
theorem yields_details (h : server.Delivers size contents) {r : Resource} {known : List Grant}
    (hgrants : ∀ c' : Catalog, c'.Alike c →
      Action.Yields (BindingCache.Serving contents server size) (c'.grants r) (· = known)) :
    Action.Yields (Serving contents server size c) (details r) fun d => d.2 = known := by
  refine (yields_onCatalog (Catalog.yields_entitlements h r)).bind fun entitlements _ => ?_
  refine Action.yields_get.bind fun t ht => ?_
  refine (yields_onBindings (hgrants t.catalog ht.alike)).bind ?_
  rintro _ rfl
  exact Action.yields_pure rfl

/-- The details of a listing: the whole kind has no grants, and each object has its own. -/
theorem yields_details_listed {now : String} {kind : ResourceKind}
    {toResource : α → Except RefFault Resource} {objects : List α} {known : α → List Grant}
    (hwhole : Action.Yields (Serving contents server size c) (details (.whole now kind))
      fun d => d.2 = [])
    (hobject : ∀ o ∈ objects, ∃ r, toResource o = .ok r ∧
      Action.Yields (Serving contents server size c) (details r) fun d => d.2 = known o) :
    Action.Yields (Serving contents server size c)
      ((Catalog.resourcesOf now kind toResource true objects).mapM details)
      fun ds => ds.flatMap (·.2) = objects.flatMap known := by
  -- No object is left out, since each one has a resource.
  have hobjects : Action.Yields (Serving contents server size c)
      ((objects.filterMap fun o => (toResource o).toOption).mapM details)
      fun ds => ds.flatMap (·.2) = objects.flatMap known := by
    induction objects with
    | nil => exact Action.yields_pure rfl
    | cons o rest ih =>
      obtain ⟨r, hr, hdetails⟩ := hobject o List.mem_cons_self
      rw [List.filterMap_cons_some (by rw [hr]; rfl), List.mapM_cons]
      refine hdetails.bind fun d hd => ?_
      refine (ih fun o' ho' => hobject o' (List.mem_cons_of_mem _ ho')).bind fun ds hds => ?_
      exact Action.yields_pure (by rw [List.flatMap_cons, List.flatMap_cons, hd, hds])
  show Action.Yields _ (List.mapM details (Resource.whole now kind :: _)) _
  rw [List.mapM_cons]
  refine hwhole.bind fun d hd => hobjects.bind fun ds hds => ?_
  exact Action.yields_pure (by rw [List.flatMap_cons, hd, List.nil_append, hds])

/-! ## Snapshots of one catalogue -/

/-- A tour yields the grants that its resources have. -/
theorem yields_snapshot_of_details {Q : List Resource → Prop} {known : List Grant}
    (hresources : Action.Yields (Serving contents server size c) resources Q)
    (hdetails : ∀ found, Q found → Action.Yields (Serving contents server size c)
      (found.mapM details) fun ds => ds.flatMap (·.2) = known) :
    Action.Yields (Serving contents server size c) snapshot fun s => s.grants = known := by
  refine hresources.bind fun found hfound => ?_
  refine (hdetails found hfound).bind fun ds hds => ?_
  exact Action.yields_get.bind fun t _ => Action.yields_pure hds

/-- The grants of roles are all that a tour of their catalogue yields. -/
theorem yields_snapshot_roles (h : server.Delivers size contents) (hnamed : contents.RolesNamed) :
    Action.Yields (Serving contents server size .roles) snapshot
      fun s => s.grants = contents.grantsOfKind .role := by
  refine yields_snapshot_of_details
    (yields_resources_of_listsAs Catalog.listsAs_roles h.roles) ?_
  rintro _ ⟨now, rfl⟩
  -- The whole kind comes first, and then the roles.
  refine yields_details_listed (yields_details h fun c' hc' => ?_) fun r hr => ?_
  · rw [Catalog.eq_roles_of_alike hc']
    exact Catalog.yields_grantsOfRole_wildcard rfl
  · obtain ⟨resource, hresource, href⟩ := Resource.exists_ofRole hnamed hr
    refine ⟨resource, hresource, yields_details h fun c' hc' => ?_⟩
    rw [Catalog.eq_roles_of_alike hc', Catalog.grants, href]
    exact Catalog.yields_grantsOfRole h hnamed hr

/-- The grants of cluster roles are all that a tour of their catalogue yields. -/
theorem yields_snapshot_clusterRoles (h : server.Delivers size contents)
    (hnamed : contents.RolesNamed) (cache : NamespaceCache) :
    Action.Yields (Serving contents server size (.clusterRoles cache)) snapshot
      fun s => s.grants = contents.grantsOfKind .clusterRole := by
  refine yields_snapshot_of_details
    (yields_resources_of_listsAs (Catalog.listsAs_clusterRoles cache) h.clusterRoles) ?_
  rintro _ ⟨now, rfl⟩
  refine yields_details_listed (yields_details h fun c' hc' => ?_) fun r hr => ?_
  · obtain ⟨cache', rfl⟩ := Catalog.exists_clusterRoles_of_alike hc'
    exact Catalog.yields_grantsOfClusterRole_wildcard rfl
  · obtain ⟨resource, hresource, href⟩ := Resource.exists_ofClusterRole hnamed hr
    refine ⟨resource, hresource, yields_details h fun c' hc' => ?_⟩
    obtain ⟨cache', rfl⟩ := Catalog.exists_clusterRoles_of_alike hc'
    rw [Catalog.grants, href]
    exact Catalog.yields_grantsOfClusterRole h hnamed hr

/-- Where no resource has grants, a tour yields none. -/
theorem yields_mapM_details_nil (h : server.Delivers size contents)
    (hgrants : ∀ (c' : Catalog) (r : Resource), c'.Alike c → c'.grants r = pure [])
    (found : List Resource) :
    Action.Yields (Serving contents server size c) (found.mapM details)
      fun ds => ds.flatMap (·.2) = [] := by
  have hdetails : ∀ r ∈ found, Action.Yields (Serving contents server size c) (details r)
      fun d => d.2 = (fun _ => []) r := by
    intro r _
    refine yields_details h fun c' hc' => ?_
    rw [hgrants c' r hc']
    exact Action.yields_pure rfl
  refine (Action.Yields.mapM hdetails).mono fun ds hds => ?_
  rw [List.flatMap_def, hds]
  simp

/-- A tour of any catalogue yields the grants of its kind. -/
theorem yields_snapshot (h : server.Delivers size contents) (hnamed : contents.RolesNamed)
    (c : Catalog) :
    Action.Yields (Serving contents server size c) snapshot
      fun s => s.grants = contents.grantsOfKind c.kind := by
  cases c with
  | inventory i =>
    have hnone : contents.grantsOfKind i.kind = [] := by cases i <;> rfl
    rw [Catalog.kind, hnone]
    refine yields_snapshot_of_details
      (yields_resources_of_listsAs (Catalog.listsAs_inventory i) (h.objects i)) fun found _ => ?_
    refine yields_mapM_details_nil h (fun c' r hc' => ?_) found
    rw [Catalog.eq_inventory_of_alike hc']
    rfl
  | roles => exact yields_snapshot_roles h hnamed
  | clusterRoles cache => exact yields_snapshot_clusterRoles h hnamed cache
  | principals listing =>
    have hnone : contents.grantsOfKind listing.principal.kind = [] := by
      cases listing.principal <;> rfl
    rw [Catalog.kind, hnone]
    refine yields_snapshot_of_details (yields_resources_principals h) fun found _ => ?_
    refine yields_mapM_details_nil h (fun c' r hc' => ?_) found
    obtain ⟨listing', rfl⟩ := Catalog.exists_principals_of_alike hc'
    rfl

end Tour

/-! ## The whole cluster -/

namespace Auditor

variable {contents : Contents} {server : Server} {size : Nat}

/-- An auditor of a server with these contents. -/
def Serving (contents : Contents) (server : Server) (size : Nat) (a : Auditor) : Prop :=
  a.bindings.HoldsOf contents ∧ a.gateway.Reaches server size

/-- Each tour leaves the auditor fit for the next one. -/
theorem yields_tour (h : server.Delivers size contents) (hnamed : contents.RolesNamed)
    (c : Catalog) :
    Action.Yields (Serving contents server size) (tour c Tour.snapshot)
      fun s => s.grants = contents.grantsOfKind c.kind :=
  (Tour.yields_snapshot h hnamed c).onPart
    (fun _ ha => ⟨c.alike_refl, ha.1, ha.2⟩) fun _ _ ht _ => ⟨ht.holds, ht.reaches⟩

/-- Of all kinds that are toured, only the two of roles have grants. -/
theorem flatMap_grantsOfKind_fresh (withPods : Bool) (namespaceTtl : Nat) :
    (Catalog.fresh withPods namespaceTtl).flatMap (fun c => contents.grantsOfKind c.kind) =
      contents.grants := by
  cases withPods <;> simp [Catalog.fresh, Catalog.inventories, Catalog.kind, Contents.grants,
    Contents.grantsOfKind, Inventory.kind, PrincipalKind.kind]

/-- A snapshot has the grants of the contents. -/
theorem yields_snapshot (h : server.Delivers size contents) (hnamed : contents.RolesNamed) :
    Action.Yields (Serving contents server size) snapshot fun s => s.grants = contents.grants := by
  refine Action.yields_get.bind fun a _ => ?_
  refine (Action.Yields.mapM fun c _ => yields_tour h hnamed c).bind fun parts hparts => ?_
  refine Action.yields_pure ?_
  show parts.flatMap Snapshot.grants = contents.grants
  rw [List.flatMap_def, hparts, ← List.flatMap_def, freshCatalogs, flatMap_grantsOfKind_fresh]

/-- A new auditor is fit for a first tour. -/
theorem serving_ofGateway {settings : Settings} {gateway : Gateway}
    (hfailures : gateway.failures = [])
    (hopens : ∀ fault, gateway.connection.pending ≠ some (.error fault)) :
    Serving contents gateway.server settings.pageSize (ofGateway settings gateway) :=
  ⟨fun hloaded => absurd hloaded (by simp [ofGateway]), rfl, rfl, hfailures, hopens⟩

end Auditor
end ClusterAccess
