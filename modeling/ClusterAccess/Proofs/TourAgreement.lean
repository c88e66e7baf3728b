/-
  ClusterAccess.Proofs.TourAgreement

  Tours of two clusters that have the same roles. The bindings that a tour works
  with are those that its cache holds, or else those of the server; where both
  tours work with the same bindings, their grants are the same, whatever else the
  clusters hold and however their lists were read.
-/
import ClusterAccess.Proofs.BindingUpkeep

namespace ClusterAccess

open ClusterAccess.Action Gateway

/-! ## Bindings in stock -/

namespace BindingCache

/-- A server has no other bindings than these: whoever reads both lists reads them. -/
def HasOnly (server : Server) (size : Nat) (roleBindings : List RoleBinding)
    (clusterRoleBindings : List ClusterRoleBinding) : Prop :=
  ∀ calls roleBindings' clusterRoleBindings',
    FullRead server size calls roleBindings' clusterRoleBindings' →
      roleBindings' = roleBindings ∧ clusterRoleBindings' = clusterRoleBindings

/-- Whatever has been read once is read by everybody. -/
theorem FullRead.hasOnly {server : Server} {size : Nat} {calls : List Call}
    {roleBindings : List RoleBinding} {clusterRoleBindings : List ClusterRoleBinding}
    (h : FullRead server size calls roleBindings clusterRoleBindings) :
    HasOnly server size roleBindings clusterRoleBindings :=
  fun _ _ _ hread => hread.unique h

/-- Every server has only some bindings, since nobody reads others. -/
theorem exists_hasOnly (server : Server) (size : Nat) :
    ∃ roleBindings clusterRoleBindings, HasOnly server size roleBindings clusterRoleBindings := by
  by_cases h : ∃ calls roleBindings clusterRoleBindings,
      FullRead server size calls roleBindings clusterRoleBindings
  · obtain ⟨_, roleBindings, clusterRoleBindings, hread⟩ := h
    exact ⟨roleBindings, clusterRoleBindings, hread.hasOnly⟩
  · exact ⟨[], [], fun calls roleBindings clusterRoleBindings hread =>
      absurd ⟨calls, roleBindings, clusterRoleBindings, hread⟩ h⟩

/-- Queries are answered from these bindings: the cache holds them while its load counts, and the
server has no others to load. -/
structure Stocked (server : Server) (size : Nat) (now : Int) (roleBindings : List RoleBinding)
    (clusterRoleBindings : List ClusterRoleBinding) (l : Linked BindingCache) : Prop where
  server_eq : l.gateway.server = server
  pageSize_eq : l.gateway.pageSize = size
  clock_eq : l.gateway.clock = now
  held : l.own.isFresh now → l.own.roleBindings = roleBindings ∧
    l.own.clusterRoleBindings = clusterRoleBindings
  served : l.own.isFresh now = false → HasOnly server size roleBindings clusterRoleBindings

variable {server : Server} {size : Nat} {now : Int} {roleBindings : List RoleBinding}
  {clusterRoleBindings : List ClusterRoleBinding} {l : Linked BindingCache}

/-- Where no load counts, what the server has is in stock. -/
theorem HasOnly.stocked (h : HasOnly server size roleBindings clusterRoleBindings)
    (hstale : l.own.isFresh l.gateway.clock = false) (hserver : l.gateway.server = server)
    (hsize : l.gateway.pageSize = size) :
    Stocked server size l.gateway.clock roleBindings clusterRoleBindings l :=
  ⟨hserver, hsize, rfl, fun hfresh => absurd (hstale.symm.trans hfresh) Bool.false_ne_true,
    fun _ => h⟩

/-- While a load counts, what it has read is in stock. -/
theorem stocked_of_isFresh (l : Linked BindingCache) (hfresh : l.own.isFresh l.gateway.clock)
    (hsize : l.gateway.pageSize = size) :
    Stocked l.gateway.server size l.gateway.clock l.own.roleBindings l.own.clusterRoleBindings l :=
  ⟨rfl, hsize, rfl, fun _ => ⟨rfl, rfl⟩,
    fun hstale => absurd (hstale.symm.trans hfresh) Bool.false_ne_true⟩

/-- What is in stock stays in stock: a load fetches just that. -/
theorem endures_stocked :
    Endures (Stocked server size now roleBindings clusterRoleBindings) := by
  rintro l ⟨own, gateway⟩ h ⟨hsteady, hown⟩
  have hserver := hsteady.server_eq.trans h.server_eq
  have hsize := hsteady.pageSize_eq.trans h.pageSize_eq
  have hclock := hsteady.clock_eq.trans h.clock_eq
  cases hown with
  | kept heq =>
    cases heq
    exact ⟨hserver, hsize, hclock, h.held, h.served⟩
  | dropped hstale heq =>
    cases heq
    rw [h.clock_eq] at hstale
    exact ⟨hserver, hsize, hclock,
      fun hfresh => absurd ((isFresh_drop _ _).symm.trans hfresh) Bool.false_ne_true,
      fun _ => h.served hstale⟩
  | loaded hstale hread heq =>
    cases heq
    rw [h.clock_eq] at hstale ⊢
    rw [h.server_eq, h.pageSize_eq] at hread
    -- Whoever reads both lists to their ends reads what is in stock.
    obtain ⟨rfl, rfl⟩ := h.served hstale _ _ _ hread
    exact ⟨hserver, hsize, hclock, fun _ => ⟨rfl, rfl⟩,
      fun hold => absurd (hold.symm.trans (isFresh_publish _ _ _ _)) Bool.false_ne_true⟩

/-- Whoever has made sure that a load counts finds one that does. -/
theorem isFresh_of_ensureLoaded {l l' : Linked BindingCache} (h : ensureLoaded l = .ok () l') :
    l'.own.isFresh l'.gateway.clock := by
  cases hfresh : l.own.isFresh l.gateway.clock with
  | true =>
    rw [ensureLoaded_of_isFresh hfresh] at h
    cases h
    exact hfresh
  | false =>
    rw [ensureLoaded_of_not_isFresh hfresh] at h
    have hends := endsLoad_load l
    rw [h] at hends
    obtain ⟨hsteady, _, _, _, -, -, hown⟩ := hends
    rw [hown, hsteady.clock_eq]
    exact isFresh_publish _ _ _ _

/-- Behind a query, the cache holds what is in stock. -/
theorem Stocked.ensureLoaded {l l' : Linked BindingCache}
    (h : Stocked server size now roleBindings clusterRoleBindings l)
    (hrun : BindingCache.ensureLoaded l = .ok () l') :
    Stocked server size now roleBindings clusterRoleBindings l' ∧
      l'.own.roleBindings = roleBindings ∧ l'.own.clusterRoleBindings = clusterRoleBindings := by
  have h' := endures_stocked l l' h (keeps_ensureLoaded.of_ok hrun)
  refine ⟨h', h'.held ?_⟩
  rw [← h'.clock_eq]
  exact isFresh_of_ensureLoaded hrun

/-- The answer to a query for a role of a namespace, from the bindings in stock. -/
theorem gives_matchingRole (ns name : String) :
    Gives (Stocked server size now roleBindings clusterRoleBindings) (matchingRole ns name)
      (· = roleBindings.filter fun b => b.ns == ns && b.roleRef.names .role name) := by
  intro l found l' hl hrun
  rw [matchingRole_apply] at hrun
  split at hrun
  next mid hloaded =>
    obtain ⟨hmid, hroles, -⟩ := hl.ensureLoaded hloaded
    cases hrun
    exact ⟨hmid, by rw [ofRole, hroles]⟩
  next => cases hrun

/-- The answer to a query for a role of the cluster, from the bindings in stock. -/
theorem gives_matchingClusterRole (name : String) :
    Gives (Stocked server size now roleBindings clusterRoleBindings) (matchingClusterRole name)
      (· = (roleBindings.filter fun b => b.roleRef.names .clusterRole name,
        clusterRoleBindings.filter fun b => b.roleRef.names .clusterRole name)) := by
  intro l found l' hl hrun
  rw [matchingClusterRole_apply] at hrun
  split at hrun
  next mid hloaded =>
    obtain ⟨hmid, hroles, hclusters⟩ := hl.ensureLoaded hloaded
    cases hrun
    exact ⟨hmid, by rw [confinedTo, clusterWideTo, hroles, hclusters]⟩
  next => cases hrun

end BindingCache

/-! ## Grants of one resource -/

namespace Catalog

open BindingCache (Endures Stocked)

variable {P : Linked BindingCache → Prop}

/-- What endures endures through the grants of a resource, and only roles have any. -/
theorem gives_grants (h : Endures P) (c : Catalog) (r : Resource) :
    Gives P (c.grants r) fun grants =>
      c.kind ≠ .role → c.kind ≠ .clusterRole → grants = [] := by
  have hkeeps := (keeps_grants c r).gives h
  cases c with
  | inventory i => exact gives_pure fun _ _ => rfl
  | roles => exact hkeeps.mono fun _ _ hrole => absurd rfl hrole
  | clusterRoles cache => exact hkeeps.mono fun _ _ _ hcluster => absurd rfl hcluster
  | principals listing => exact gives_pure fun _ _ => rfl

/-! ## In two clusters -/

variable {server server' : Server} {size : Nat} {now now' : Int}
  {roleBindings : List RoleBinding} {clusterRoleBindings : List ClusterRoleBinding}

/-- Two caches have the same bindings in stock, each over a server of its own. -/
def BothStocked (server server' : Server) (size : Nat) (now now' : Int)
    (roleBindings : List RoleBinding) (clusterRoleBindings : List ClusterRoleBinding)
    (l l' : Linked BindingCache) : Prop :=
  Stocked server size now roleBindings clusterRoleBindings l ∧
    Stocked server' size now' roleBindings clusterRoleBindings l'

/-- Gateways to two servers, which stay where they are. -/
def Between (server server' : Server) (size : Nat) (now now' : Int) (g g' : Gateway) : Prop :=
  (g.server = server ∧ g.pageSize = size ∧ g.clock = now) ∧
    g'.server = server' ∧ g'.pageSize = size ∧ g'.clock = now'

theorem isSettled_between : IsSettled (Between server server' size now now') := by
  rintro g h g' h' ⟨⟨hserver, hsize, hclock⟩, hserver', hsize', hclock'⟩ hg hh
  exact ⟨⟨hg.server_eq.trans hserver, hg.pageSize_eq.trans hsize, hg.clock_eq.trans hclock⟩,
    hh.server_eq.trans hserver', hh.pageSize_eq.trans hsize', hh.clock_eq.trans hclock'⟩

theorem agree_fetch {α : Type} {act act' : Fetch α} {S : α → α → Prop}
    (h : Agree (Between server server' size now now') act act' S) :
    Agree (BothStocked server server' size now now' roleBindings clusterRoleBindings)
      (Linked.fetch act) (Linked.fetch act') S := by
  refine h.onPart (fun l l' hl => ?_) fun g g' l l' hg hl => ?_
  · exact ⟨⟨hl.1.server_eq, hl.1.pageSize_eq, hl.1.clock_eq⟩,
      hl.2.server_eq, hl.2.pageSize_eq, hl.2.clock_eq⟩
  · exact ⟨⟨hg.1.1, hg.1.2.1, hg.1.2.2, hl.1.held, hl.1.served⟩,
      ⟨hg.2.1, hg.2.2.1, hg.2.2.2, hl.2.held, hl.2.served⟩⟩

/-- A role of a namespace has the same grants in two clusters that have the same roles. -/
theorem agree_grantsOfRole (hroles : server.role = server'.role) (ref : ResourceRef) :
    Agree (BothStocked server server' size now now' roleBindings clusterRoleBindings)
      (grantsOfRole ref) (grantsOfRole ref) (· = ·) := by
  rw [grantsOfRole]
  split
  next => exact agree_pure rfl
  next =>
    refine (agree_ofExcept _ _).bind ?_
    rintro names _ rfl
    refine (agree_fetch (agree_role isSettled_between (fun g g' hg => ?_) _ _)).bind ?_
    · rw [hg.1.1, hg.2.1, hroles]
    rintro r _ rfl
    refine ((BindingCache.gives_matchingRole _ _).agree
      (BindingCache.gives_matchingRole _ _)).bind ?_
    rintro _ _ ⟨rfl, rfl⟩
    exact agree_pure rfl

/-- A role of the cluster has the same grants in two clusters that have the same roles. -/
theorem agree_grantsOfClusterRole (hroles : server.clusterRole = server'.clusterRole)
    (ref : ResourceRef) :
    Agree (BothStocked server server' size now now' roleBindings clusterRoleBindings)
      (grantsOfClusterRole ref) (grantsOfClusterRole ref) (· = ·) := by
  rw [grantsOfClusterRole]
  split
  next => exact agree_pure rfl
  next =>
    refine ((BindingCache.gives_matchingClusterRole _).agree
      (BindingCache.gives_matchingClusterRole _)).bind ?_
    rintro _ _ ⟨rfl, rfl⟩
    refine (agree_fetch (agree_clusterRole isSettled_between (fun g g' hg => ?_) _)).bind ?_
    · rw [hg.1.1, hg.2.1, hroles]
    rintro r _ rfl
    exact agree_pure rfl

/-! ## Pages in two clusters -/

/-- Two servers have the same roles: in their lists, and one by one. -/
structure SameRoles (server server' : Server) : Prop where
  roles : server.roles = server'.roles
  clusterRoles : server.clusterRoles = server'.clusterRoles
  role : server.role = server'.role
  clusterRole : server.clusterRole = server'.clusterRole

/-- Two pages of resources refer to the same things, and go on alike. -/
def SameRefs (page page' : Page Resource) : Prop :=
  page.items.map Resource.ref = page'.items.map Resource.ref ∧ page.next = page'.next

/-- Two catalogues of a kind, each over a server of its own. -/
def BothOf (kind : ResourceKind) (server server' : Server) (size : Nat) (now now' : Int)
    (l l' : Linked Catalog) : Prop :=
  (l.own.kind = kind ∧ l'.own.kind = kind) ∧
    Between server server' size now now' l.gateway l'.gateway

/-- The time shows in the resource of a whole kind, and not in its reference. -/
theorem map_ref_resourcesOf {α : Type} (now later : String) (kind : ResourceKind)
    (toResource : α → Except RefFault Resource) (isFirst : Bool) (items : List α) :
    (resourcesOf now kind toResource isFirst items).map Resource.ref =
      (resourcesOf later kind toResource isFirst items).map Resource.ref := by
  cases isFirst <;> rfl

theorem agree_listPaged {α : Type} (kind : ResourceKind) (name : ListName)
    (serve : Server → ListCall → Answer α) (hserve : serve server = serve server')
    (toResource : α → Except RefFault Resource) (t : PageToken) :
    Agree (Between server server' size now now')
      (listPaged kind (fun resume => listPage name serve resume none) toResource t)
      (listPaged kind (fun resume => listPage name serve resume none) toResource t) SameRefs := by
  refine (agree_listPage isSettled_between name serve (fun g g' hg => ?_) (fun g g' hg => ?_)
    t.resume).bind ?_
  · rw [hg.1.1, hg.2.1, hserve]
  · rw [hg.1.2.1, hg.2.2.1]
  rintro page _ rfl
  exact agree_get.bind fun g g' _ => agree_pure ⟨map_ref_resourcesOf _ _ _ _ _ _, rfl⟩

/-- Catalogues that only pass calls on agree as the calls do. -/
theorem agree_list_of_fetch {kind : ResourceKind} {token : String}
    {act : Fetch (Page Resource)}
    (hlist : ∀ l : Linked Catalog, l.own.kind = kind → list token l = Linked.fetch act l)
    (h : Agree (Between server server' size now now') act act SameRefs) :
    Agree (BothOf kind server server' size now now') (list token) (list token) SameRefs := by
  intro l l' page page' m m' hl hrun hrun'
  rw [hlist l hl.1.1] at hrun
  rw [hlist l' hl.1.2] at hrun'
  have hfetch : Agree (BothOf kind server server' size now now') (Linked.fetch act)
      (Linked.fetch act) SameRefs :=
    h.onPart (fun _ _ hl => hl.2) fun _ _ _ _ hg hl => ⟨hl.1, hg⟩
  exact hfetch l l' page page' m m' hl hrun hrun'

/-- A page of roles refers to the same roles in two clusters that have the same. -/
theorem agree_list (hsame : SameRoles server server') {kind : ResourceKind}
    (hkind : kind = .role ∨ kind = .clusterRole) (token : String) :
    Agree (BothOf kind server server' size now now') (list token) (list token) SameRefs := by
  cases hdecode : PageToken.decode token with
  | error e =>
    -- A token that cannot be read gives no page in either cluster.
    intro l l' page page' m m' _ hrun
    rw [list, hdecode] at hrun
    cases hrun
  | ok t =>
    rcases hkind with rfl | rfl
    · refine agree_list_of_fetch (fun l hl => ?_)
        (agree_listPaged .role .roles Server.roles hsame.roles Resource.ofRole t)
      rw [list_apply hdecode, eq_roles_of_kind hl]
      rfl
    · refine agree_list_of_fetch (fun l hl => ?_)
        (agree_listPaged .clusterRole .clusterRoles Server.clusterRoles hsame.clusterRoles
          Resource.ofClusterRole t)
      obtain ⟨cache, hown⟩ := exists_clusterRoles_of_kind hl
      rw [list_apply hdecode, hown]
      rfl

/-- A resource has the same grants in two clusters that have the same roles. -/
theorem agree_grants (hsame : SameRoles server server') {c c' : Catalog}
    (hkind : c.kind = c'.kind) {r r' : Resource} (href : r.ref = r'.ref) :
    Agree (BothStocked server server' size now now' roleBindings clusterRoleBindings)
      (c.grants r) (c'.grants r') (· = ·) := by
  by_cases hrole : c.kind = .role
  · obtain rfl := eq_roles_of_kind hrole
    obtain rfl := eq_roles_of_kind (hkind.symm.trans hrole)
    rw [grants, href]
    exact agree_grantsOfRole hsame.role _
  by_cases hcluster : c.kind = .clusterRole
  · obtain ⟨cache, rfl⟩ := exists_clusterRoles_of_kind hcluster
    obtain ⟨cache', rfl⟩ := exists_clusterRoles_of_kind (hkind.symm.trans hcluster)
    rw [grants, grants, href]
    exact agree_grantsOfClusterRole hsame.clusterRole _
  rw [grants_of_kind_ne hrole hcluster, grants_of_kind_ne (hkind ▸ hrole) (hkind ▸ hcluster)]
  exact agree_pure rfl

end Catalog

/-! ## Tours -/

namespace Tour

open BindingCache (Endures Stocked)
open Catalog (SameRoles SameRefs)

variable {P : Linked BindingCache → Prop} {kind : ResourceKind}

/-- A tour of a kind, with bindings and a gateway that have `P`. -/
def Through (P : Linked BindingCache → Prop) (kind : ResourceKind) (t : Tour) : Prop :=
  P ⟨t.bindings, t.gateway⟩ ∧ t.catalog.kind = kind

theorem gives_of_keeps (h : Endures P) {α : Type} {act : Action Tour α}
    (hact : Keeps Tends act) : Gives (Through P kind) act fun _ => True :=
  hact.gives fun _ _ ht htends => ⟨h _ _ ht.1 htends.bindings, htends.kind_eq.trans ht.2⟩

theorem gives_onBindings {α : Type} {act : Action (Linked BindingCache) α} {Q : α → Prop}
    (h : Gives P act Q) : Gives (Through P kind) (onBindings act) Q :=
  h.onPart (fun _ ht => ht.1) fun _ _ hl ht => ⟨hl, ht.2⟩

theorem gives_details (h : Endures P) (r : Resource) :
    Gives (Through P kind) (details r) fun d =>
      kind ≠ .role → kind ≠ .clusterRole → d.2 = [] := by
  refine (gives_of_keeps h (keeps_onCatalog (Catalog.keeps_entitlements r))).bind
    fun entitlements _ => ?_
  refine gives_get.bind fun t ht => ?_
  refine (gives_onBindings (Catalog.gives_grants h t.catalog r)).bind fun grants hgrants => ?_
  rw [ht.2] at hgrants
  exact gives_pure hgrants

/-- What endures endures through a tour, and only tours of roles find grants. -/
theorem gives_snapshot (h : Endures P) :
    Gives (Through P kind) snapshot fun s =>
      kind ≠ .role → kind ≠ .clusterRole → s.grants = [] := by
  refine (gives_of_keeps h keeps_resources).bind fun found _ => ?_
  refine (Gives.mapM fun r _ => gives_details h r).bind fun details hdetails => ?_
  refine gives_get.bind fun t _ => gives_pure fun hrole hcluster => ?_
  simp only [List.flatMap_eq_nil_iff]
  exact fun d hd => hdetails d hd hrole hcluster

/-! ## In two clusters -/

variable {server server' : Server} {size : Nat} {now now' : Int}
  {roleBindings : List RoleBinding} {clusterRoleBindings : List ClusterRoleBinding}

/-- Two tours of a kind with the same bindings in stock, each of a cluster of its own. -/
def BothThrough (kind : ResourceKind) (server server' : Server) (size : Nat) (now now' : Int)
    (roleBindings : List RoleBinding) (clusterRoleBindings : List ClusterRoleBinding)
    (t t' : Tour) : Prop :=
  Through (Stocked server size now roleBindings clusterRoleBindings) kind t ∧
    Through (Stocked server' size now' roleBindings clusterRoleBindings) kind t'

theorem agree_onCatalog {α : Type} {act act' : Action (Linked Catalog) α} {S : α → α → Prop}
    (h : Agree (Catalog.BothOf kind server server' size now now') act act' S) :
    Agree (BothThrough kind server server' size now now' roleBindings clusterRoleBindings)
      (onCatalog act) (onCatalog act') S := by
  refine h.onPart (fun t t' ht => ?_) fun l l' t t' hl ht => ?_
  · exact ⟨⟨ht.1.2, ht.2.2⟩, ⟨ht.1.1.server_eq, ht.1.1.pageSize_eq, ht.1.1.clock_eq⟩,
      ht.2.1.server_eq, ht.2.1.pageSize_eq, ht.2.1.clock_eq⟩
  · obtain ⟨⟨hkind, hkind'⟩, ⟨hserver, hsize, hclock⟩, hserver', hsize', hclock'⟩ := hl
    exact ⟨⟨⟨hserver, hsize, hclock, ht.1.1.held, ht.1.1.served⟩, hkind⟩,
      ⟨⟨hserver', hsize', hclock', ht.2.1.held, ht.2.1.served⟩, hkind'⟩⟩

/-- Tours of roles find the same ones. -/
theorem agree_resources (hsame : SameRoles server server')
    (hkind : kind = .role ∨ kind = .clusterRole) :
    Agree (BothThrough kind server server' size now now' roleBindings clusterRoleBindings)
      resources resources fun found found' =>
        found.map Resource.ref = found'.map Resource.ref :=
  agree_get.bind fun _ _ _ =>
    agree_followFrom (fun _ => agree_onCatalog (Catalog.agree_list hsame hkind _)) _ _ rfl _

/-- Resources that refer to the same thing have the same grants. -/
theorem agree_details (hsame : SameRoles server server') {r r' : Resource}
    (href : r.ref = r'.ref) :
    Agree (BothThrough kind server server' size now now' roleBindings clusterRoleBindings)
      (details r) (details r') fun d d' => d.2 = d'.2 := by
  -- Entitlements may differ from one cluster to the other; grants do not depend on them.
  refine ((gives_of_keeps BindingCache.endures_stocked
    (keeps_onCatalog (Catalog.keeps_entitlements r))).agree
      (gives_of_keeps BindingCache.endures_stocked
        (keeps_onCatalog (Catalog.keeps_entitlements r')))).bind ?_
  intro entitlements entitlements' _
  refine agree_get.bind fun t t' ht => ?_
  have hgrants : Agree
      (BothThrough kind server server' size now now' roleBindings clusterRoleBindings)
      (onBindings (t.catalog.grants r)) (onBindings (t'.catalog.grants r')) (· = ·) :=
    (Catalog.agree_grants hsame (ht.1.2.trans ht.2.2.symm) href).onPart
      (fun _ _ ht => ⟨ht.1.1, ht.2.1⟩)
      fun _ _ _ _ hl ht => ⟨⟨hl.1, ht.1.2⟩, hl.2, ht.2.2⟩
  refine hgrants.bind ?_
  rintro grants _ rfl
  exact agree_pure rfl

/-- Tours of a kind find the same grants in two clusters that have the same roles. -/
theorem agree_snapshot (hsame : SameRoles server server') :
    Agree (BothThrough kind server server' size now now' roleBindings clusterRoleBindings)
      snapshot snapshot fun s s' => s.grants = s'.grants := by
  by_cases hkind : kind = .role ∨ kind = .clusterRole
  · refine (agree_resources hsame hkind).bind fun found found' hrefs => ?_
    refine (Agree.mapM hrefs fun r r' href => agree_details hsame href).bind
      fun details details' hdetails => ?_
    refine agree_get.bind fun t t' _ => agree_pure ?_
    simp only [List.flatMap_def, hdetails]
  · -- Other kinds have no grants in either cluster.
    rw [not_or] at hkind
    have hgives : Gives
        (Through (Stocked server size now roleBindings clusterRoleBindings) kind) snapshot _ :=
      gives_snapshot BindingCache.endures_stocked
    have hgives' : Gives
        (Through (Stocked server' size now' roleBindings clusterRoleBindings) kind) snapshot _ :=
      gives_snapshot BindingCache.endures_stocked
    refine (hgives.agree hgives').mono ?_
    rintro s s' ⟨hs, hs'⟩
    rw [hs hkind.1 hkind.2, hs' hkind.1 hkind.2]

end Tour
end ClusterAccess
