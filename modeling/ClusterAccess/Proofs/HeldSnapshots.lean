/-
  ClusterAccess.Proofs.HeldSnapshots

  A snapshot of what a cluster holds, taken apart again. It has one part for each
  catalogue; everything in a part comes from a resource of the catalogue, and each
  resource has brought all of its entitlements and all of its grants.
-/
import Mathlib.Data.List.Forall2
import ClusterAccess.Proofs.ListingsAlone
import ClusterAccess.Proofs.PageSizes
import ClusterAccess.Proofs.SurvivedFailures

namespace ClusterAccess

/-! ## Steps that succeeded -/

section Steps

variable {ε α β : Type}

theorem exists_of_bind_ok {x : Except ε α} {f : α → Except ε β} {b : β}
    (h : (x >>= f) = .ok b) : ∃ a, x = .ok a ∧ f a = .ok b := by
  cases x with
  | error e => cases h
  | ok a => exact ⟨a, rfl, h⟩

theorem exists_of_map_ok {x : Except ε α} {f : α → β} {b : β} (h : x.map f = .ok b) :
    ∃ a, x = .ok a ∧ f a = b := by
  cases x with
  | error e => cases h
  | ok a => exact ⟨a, rfl, Except.ok.inj h⟩

theorem eq_ok_of_mapError {ε' : Type} {x : Except ε α} {f : ε → ε'} {a : α}
    (h : x.mapError f = .ok a) : x = .ok a := by
  cases x with
  | error e => cases h
  | ok b => rw [Except.ok.inj h]

/-- A list of steps succeeds if each of them does. -/
theorem forall₂_of_mapM_ok {f : α → Except ε β} {xs : List α} {ys : List β}
    (h : xs.mapM f = .ok ys) : List.Forall₂ (fun x y => f x = .ok y) xs ys := by
  induction xs generalizing ys with
  | nil =>
    cases h
    exact .nil
  | cons x xs ih =>
    rw [List.mapM_cons] at h
    obtain ⟨y, hy, hrest⟩ := exists_of_bind_ok h
    obtain ⟨ys', hys, hpure⟩ := exists_of_bind_ok hrest
    cases hpure
    exact .cons hy (ih hys)

variable {R : α → β → Prop} {xs : List α} {ys : List β}

theorem exists_right_of_mem (h : List.Forall₂ R xs ys) {x : α} (hx : x ∈ xs) :
    ∃ y ∈ ys, R x y := by
  induction h with
  | nil => cases hx
  | cons hr _ ih =>
    rcases List.mem_cons.1 hx with rfl | hx
    · exact ⟨_, List.mem_cons_self, hr⟩
    · obtain ⟨y, hy, hxy⟩ := ih hx
      exact ⟨y, List.mem_cons_of_mem _ hy, hxy⟩

theorem exists_left_of_mem (h : List.Forall₂ R xs ys) {y : β} (hy : y ∈ ys) :
    ∃ x ∈ xs, R x y :=
  exists_right_of_mem h.flip hy

end Steps

/-! ## Lists that were read -/

/-- A list that was read is a list of readable objects. -/
theorem Held.eq_of_read_ok {α : Type} {name : ListName} {held : Held α} {read : List α}
    (h : held.read name = .ok read) : held = .ok (read.map .ok) := by
  obtain ⟨objects, hobjects, hread⟩ := exists_of_bind_ok h
  have hmapM : objects.mapM id = .ok read := eq_ok_of_mapError hread
  rw [eq_ok_of_mapError hobjects, Gateway.eq_map_of_mapM_ok hmapM]

namespace Holdings

variable {h : Holdings} {now : String} {settings : Settings} {s part : Snapshot} {c : Catalog}
  {r : Resource} {g : Grant}

/-- Bindings that were read are all that is held. -/
theorem bindings_ok {bindings : Contents} (hbindings : h.bindings = .ok bindings) :
    h.roleBindings = .ok (bindings.roleBindings.map .ok) ∧
      h.clusterRoleBindings = .ok (bindings.clusterRoleBindings.map .ok) := by
  obtain ⟨roleBindings, hroles, hrest⟩ := exists_of_bind_ok hbindings
  obtain ⟨clusterRoleBindings, hclusters, hpure⟩ := exists_of_bind_ok hrest
  cases hpure
  exact ⟨Held.eq_of_read_ok hroles, Held.eq_of_read_ok hclusters⟩

theorem namespaces_ok {names : List String} (hnames : h.namespaces = .ok names) :
    ∃ objects : List ClusterObject, h.objects .nameSpace = .ok (objects.map .ok) ∧
      names = objects.map ClusterObject.name := by
  obtain ⟨objects, hobjects, hpure⟩ := exists_of_bind_ok hnames
  cases hpure
  exact ⟨objects, Held.eq_of_read_ok hobjects, rfl⟩

/-! ## Parts of a snapshot -/

/-- The parts of a snapshot, catalogue by catalogue. -/
theorem exists_parts (hs : h.snapshot now settings = .ok s) :
    ∃ parts, List.Forall₂ (fun c part => h.part now c = .ok part)
      (Auditor.freshCatalogs settings) parts ∧ s = .join parts := by
  obtain ⟨parts, hparts, hpure⟩ := exists_of_bind_ok hs
  cases hpure
  exact ⟨parts, forall₂_of_mapM_ok hparts, rfl⟩

/-- A snapshot has the kinds of all catalogues. -/
theorem kinds_of_snapshot (hs : h.snapshot now settings = .ok s) :
    s.kinds = (Auditor.freshCatalogs settings).map Catalog.kind := by
  obtain ⟨parts, hparts, rfl⟩ := exists_parts hs
  show parts.flatMap Snapshot.kinds = _
  generalize Auditor.freshCatalogs settings = catalogs at hparts
  clear hs
  induction hparts with
  | nil => rfl
  | cons hpart _ ih =>
    obtain ⟨found, -, hrest⟩ := exists_of_bind_ok hpart
    obtain ⟨details, -, hpure⟩ := exists_of_bind_ok hrest
    cases hpure
    rw [List.flatMap_cons, ih, List.map_cons]
    rfl

/-- What a part is made of. -/
theorem part_ok (hpart : h.part now c = .ok part) :
    h.resources now c = .ok part.resources ∧
      ∃ details, List.Forall₂ (fun r d => h.details c r = .ok d) part.resources details ∧
        part.entitlements = details.flatMap (·.1) ∧ part.grants = details.flatMap (·.2) := by
  obtain ⟨found, hfound, hrest⟩ := exists_of_bind_ok hpart
  obtain ⟨details, hdetails, hpure⟩ := exists_of_bind_ok hrest
  cases hpure
  exact ⟨hfound, details, forall₂_of_mapM_ok hdetails, rfl, rfl⟩

theorem details_ok {d : List Entitlement × List Grant} (hd : h.details c r = .ok d) :
    h.entitlements r c = .ok d.1 ∧ h.grants r c = .ok d.2 := by
  obtain ⟨entitlements, hentitlements, hrest⟩ := exists_of_bind_ok hd
  obtain ⟨grants, hgrants, hpure⟩ := exists_of_bind_ok hrest
  cases hpure
  exact ⟨hentitlements, hgrants⟩

/-- What a catalogue has is in the snapshot: its resources, and all entitlements on them. -/
theorem exists_of_catalog (hs : h.snapshot now settings = .ok s)
    (hc : c ∈ Auditor.freshCatalogs settings) :
    ∃ found, h.resources now c = .ok found ∧ found ⊆ s.resources ∧
      ∀ r ∈ found, ∃ offered, h.entitlements r c = .ok offered ∧ offered ⊆ s.entitlements := by
  obtain ⟨parts, hparts, rfl⟩ := exists_parts hs
  obtain ⟨part, hmem, hpart⟩ := exists_right_of_mem hparts hc
  obtain ⟨hfound, details, hdetails, hentitlements, -⟩ := part_ok hpart
  have hresources : part.resources ⊆ (Snapshot.join parts).resources :=
    fun r hr => List.mem_flatMap.2 ⟨part, hmem, hr⟩
  refine ⟨part.resources, hfound, hresources, fun r hr => ?_⟩
  obtain ⟨d, hd, hrd⟩ := exists_right_of_mem hdetails hr
  refine ⟨d.1, (details_ok hrd).1, fun e he => ?_⟩
  have hpartMem : e ∈ part.entitlements := by
    rw [hentitlements]
    exact List.mem_flatMap.2 ⟨d, hd, he⟩
  exact List.mem_flatMap.2 ⟨part, hmem, hpartMem⟩

/-- Every grant comes from a resource of a catalogue. -/
theorem exists_of_mem_grants (hs : h.snapshot now settings = .ok s) (hg : g ∈ s.grants) :
    ∃ c ∈ Auditor.freshCatalogs settings, ∃ found, h.resources now c = .ok found ∧
      ∃ r ∈ found, ∃ known, h.grants r c = .ok known ∧ g ∈ known := by
  obtain ⟨parts, hparts, rfl⟩ := exists_parts hs
  obtain ⟨part, hmem, hgPart⟩ := List.mem_flatMap.1 hg
  obtain ⟨c, hc, hpart⟩ := exists_left_of_mem hparts hmem
  obtain ⟨hfound, details, hdetails, -, hgrants⟩ := part_ok hpart
  rw [hgrants] at hgPart
  obtain ⟨d, hd, hgd⟩ := List.mem_flatMap.1 hgPart
  obtain ⟨r, hr, hrd⟩ := exists_left_of_mem hdetails hd
  exact ⟨c, hc, part.resources, hfound, r, hr, d.2, (details_ok hrd).2, hgd⟩

/-- The resources of a catalogue are of its kind. -/
theorem kind_of_resources_ok {found : List Resource} (hfound : h.resources now c = .ok found) :
    ∀ r ∈ found, r.ref.kind = c.kind := by
  cases c with
  | inventory i =>
    obtain ⟨objects, -, rfl⟩ := exists_of_map_ok hfound
    exact Catalog.kind_of_mem_resourcesOf fun o r => Resource.kind_of_ofObject
  | roles =>
    obtain ⟨objects, -, rfl⟩ := exists_of_map_ok hfound
    exact Catalog.kind_of_mem_resourcesOf fun o r => Resource.kind_of_ofObject
  | clusterRoles cache =>
    obtain ⟨objects, -, rfl⟩ := exists_of_map_ok hfound
    exact Catalog.kind_of_mem_resourcesOf fun o r => Resource.kind_of_ofClusterRole
  | principals listing =>
    obtain ⟨bindings, -, hpure⟩ := exists_of_bind_ok hfound
    cases hpure
    intro r hr
    obtain ⟨name, -, rfl⟩ := List.mem_map.1 hr
    rfl

/-- What a snapshot has of a kind is what the catalogue of the kind has. -/
theorem resources_of_snapshot (hs : h.snapshot now settings = .ok s)
    (hc : c ∈ Auditor.freshCatalogs settings) :
    h.resources now c = .ok (s.resourcesOf c.kind) := by
  obtain ⟨parts, hparts, rfl⟩ := exists_parts hs
  have hresources : List.Forall₂ (fun c part => h.resources now c = .ok part.resources)
      (Auditor.freshCatalogs settings) parts :=
    hparts.imp fun _ _ hpart => (part_ok hpart).1
  exact Auditor.resourcesOf_join (P := fun c found => h.resources now c = .ok found)
    (fun _ _ => kind_of_resources_ok) hresources (Auditor.nodup_kind_freshCatalogs settings) hc

/-- A snapshot has no resource of another kind. -/
theorem kind_mem_of_mem_resources (hs : h.snapshot now settings = .ok s) (hr : r ∈ s.resources) :
    r.ref.kind ∈ s.kinds := by
  rw [kinds_of_snapshot hs]
  obtain ⟨parts, hparts, rfl⟩ := exists_parts hs
  have hresources : List.Forall₂ (fun c part => h.resources now c = .ok part.resources)
      (Auditor.freshCatalogs settings) parts :=
    hparts.imp fun _ _ hpart => (part_ok hpart).1
  exact Auditor.kind_of_mem_parts (P := fun c found => h.resources now c = .ok found)
    (fun _ _ => kind_of_resources_ok) hresources r hr

end Holdings

/-! ## Snapshots of an auditor -/

/-- A snapshot lists both kinds of principals. -/
theorem Auditor.principals_mem_freshCatalogs (settings : Settings) (principal : PrincipalKind) :
    Catalog.principals { principal } ∈ freshCatalogs settings := by
  cases principal <;> simp [freshCatalogs, Catalog.fresh]

/-- A server that promises more pages lists what it did. -/
theorem Server.Lists.mono {α : Type} {server server' : Server} {serve : ListCall → Answer α}
    {size : Nat} {held : Held α} (h : server.Lists serve size held)
    (hpages : server.pageLimit ≤ server'.pageLimit) : server'.Lists serve size held := by
  cases held with
  | error failure => exact ⟨Nat.lt_of_lt_of_le h.1 hpages, h.2⟩
  | ok objects =>
    obtain ⟨n, hn, hdivides⟩ := h
    exact ⟨n, Nat.le_trans hn hpages, hdivides⟩

/-- Without its failures to come, a gateway goes to a server that shows the same. -/
theorem Server.Shows.spare {h : Holdings} {gateway : Gateway} {size : Nat}
    (hshows : gateway.server.Shows h size) :
    (gateway.spare gateway.patience).server.Shows h size := by
  have hpages : gateway.server.pageLimit ≤ gateway.patience := Nat.le_add_right _ _
  exact {
    roles := hshows.roles.mono hpages
    clusterRoles := hshows.clusterRoles.mono hpages
    roleBindings := hshows.roleBindings.mono hpages
    clusterRoleBindings := hshows.clusterRoleBindings.mono hpages
    objects := fun i => (hshows.objects i).mono hpages
    role := hshows.role
    clusterRole := hshows.clusterRole }

/-- Without a connection there would have been no snapshot. -/
theorem Auditor.opens_of_snapshot_ok {settings : Settings} {gateway : Gateway} {s : Snapshot}
    {after : Auditor} (hpages : 0 < gateway.server.pageLimit)
    (hrun : snapshot (ofGateway settings gateway) = .ok s after) (fault : Fault) :
    gateway.connection.pending ≠ some (.error fault) := by
  intro hfault
  have hunopened : (ofGateway settings gateway).gateway.Unopened fault := hfault
  rw [snapshot_of_unopened hunopened hpages] at hrun
  cases hrun

/-- A snapshot that a new auditor has taken is one of what is held. -/
theorem Auditor.held_of_snapshot_ok {h : Holdings} {settings : Settings} {gateway : Gateway}
    {s : Snapshot} {after : Auditor} (hshows : gateway.server.Shows h settings.pageSize)
    (hrun : snapshot (ofGateway settings gateway) = .ok s after) :
    h.snapshot gateway.now settings = .ok s := by
  obtain ⟨after', hspared⟩ := exists_snapshot_spared hrun
  have hopens := opens_of_snapshot_ok hshows.roles.pageLimit_pos hrun
  have houtcome := (outcome_snapshot hshows.spare rfl hopens).1
  rw [Action.outcome, hspared] at houtcome
  exact houtcome.symm

/-! ## Over one server -/

/-- A gateway to a server that cuts the lists of what is held into pages of one object. -/
def Holdings.gateway (h : Holdings) : Gateway where
  server := h.server
  pageSize := 1

theorem Holdings.reachesAt_gateway (h : Holdings) : h.gateway.ReachesAt h.server 1 "" :=
  ⟨⟨rfl, rfl, rfl, fun _ => nofun⟩, rfl⟩

/-- What is held is what a new auditor takes a snapshot of. -/
theorem Auditor.exists_snapshot {h : Holdings} {settings : Settings}
    (hsize : 0 < settings.pageSize) {p : Snapshot → Bool}
    (hp : (h.snapshot "" settings).toOption.any p = true) :
    ∃ s after, snapshot (ofGateway settings h.gateway) = .ok s after ∧ p s = true := by
  obtain ⟨s, hs, hpasses⟩ := (Option.any_eq_true _ _).1 hp
  have hheld : (snapshot.outcome (ofGateway settings h.gateway)).1 = h.snapshot "" settings :=
    (outcome_snapshot (h.shows_server hsize) rfl h.reachesAt_gateway.reaches.opens).1
  rw [← hheld] at hs
  exact ⟨s, _, Action.eq_ok_of_outcome hs, hpasses⟩

end ClusterAccess
