/-
  ClusterAccess.Proofs.PageSizes

  The size of pages does not matter. A snapshot of a server that shows what a
  cluster holds comes to what is held, and so two snapshots that ask for pages of
  different sizes come to the same, or meet the same fault.
-/
import ClusterAccess.Proofs.Holdings

namespace ClusterAccess

open ClusterAccess.Action Gateway

variable {h : Holdings} {server : Server} {size : Nat} {now : String}

/-! ## Bindings -/

namespace BindingCache

/-- The bindings that have been loaded. -/
def contents (c : BindingCache) : Contents :=
  { roleBindings := c.roleBindings, clusterRoleBindings := c.clusterRoleBindings }

/-- What has been loaded is what is held. -/
def LoadedFrom (h : Holdings) (c : BindingCache) : Prop :=
  c.loaded → h.bindings = .ok c.contents

/-- Bindings as they are held, with a gateway to a server. -/
def Standing (h : Holdings) (server : Server) (size : Nat) (now : String)
    (l : Linked BindingCache) : Prop :=
  l.own.LoadedFrom h ∧ l.gateway.ReachesAt server size now

section

variable (hshows : server.Shows h size)
include hshows

/-- A load publishes the bindings that are held, or fails as reading them does. -/
theorem endsAs_load {l : Linked BindingCache} (hl : Standing h server size now l) :
    EndsAs (fun l' => Standing h server size now l' ∧ h.bindings = .ok l'.own.contents)
      (h.bindings.map fun _ => ()) (load l) := by
  have hroles : EndsAs (ReachesAt server size now) (h.roleBindings.read .roleBindings)
      (allRoleBindings l.gateway) :=
    comesTo_drain (hshows.roleBindings.exists_walk .roleBindings) l.gateway hl.2
  -- Bindings are published only behind both lists, so a fault of either leaves none to speak of.
  rw [load_apply]
  cases hrun : allRoleBindings l.gateway with
  | error e g =>
    rw [hrun] at hroles
    refine ⟨?_, hroles.2⟩
    rw [Holdings.bindings, hroles.1]
    rfl
  | ok roleBindings g =>
    rw [hrun] at hroles
    have hclusters : EndsAs (ReachesAt server size now)
        (h.clusterRoleBindings.read .clusterRoleBindings) (allClusterRoleBindings g) :=
      comesTo_drain (hshows.clusterRoleBindings.exists_walk .clusterRoleBindings) g hroles.2
    simp only
    cases hrun' : allClusterRoleBindings g with
    | error e g' =>
      rw [hrun'] at hclusters
      refine ⟨?_, hclusters.2⟩
      rw [Holdings.bindings, hroles.1, hclusters.1]
      rfl
    | ok clusterRoleBindings g' =>
      rw [hrun'] at hclusters
      have hbindings : h.bindings = .ok { roleBindings, clusterRoleBindings } := by
        rw [Holdings.bindings, hroles.1, hclusters.1]
        rfl
      refine ⟨?_, ⟨fun _ => hbindings, hclusters.2⟩, hbindings⟩
      rw [hbindings]
      rfl

/-- Whether they have been loaded before or not, the bindings that are held are there. -/
theorem endsAs_ensureLoaded {l : Linked BindingCache} (hl : Standing h server size now l) :
    EndsAs (fun l' => Standing h server size now l' ∧ h.bindings = .ok l'.own.contents)
      (h.bindings.map fun _ => ()) (ensureLoaded l) := by
  cases hfresh : l.own.isFresh l.gateway.clock with
  | false =>
    rw [ensureLoaded_of_not_isFresh hfresh]
    exact endsAs_load hshows hl
  | true =>
    have hbindings := hl.1 (loaded_of_isFresh hfresh)
    rw [ensureLoaded_of_isFresh hfresh]
    refine ⟨?_, hl, hbindings⟩
    rw [hbindings]
    rfl

/-- A query comes to the same question about the bindings that are held. -/
theorem comesTo_query {α : Type} (query : BindingCache → α) (asked : Contents → α)
    (hsame : ∀ c : BindingCache, query c = asked c.contents) :
    ComesTo (Standing h server size now)
      (do
        ensureLoaded
        let s ← get
        pure (query s.own))
      (do
        let c ← h.bindings
        pure (asked c)) := by
  intro l hl
  have hends := endsAs_ensureLoaded hshows hl
  rw [bind_apply]
  cases hrun : ensureLoaded l with
  | error e l' =>
    rw [hrun] at hends
    refine ⟨?_, hends.2⟩
    cases hbindings : h.bindings with
    | ok c =>
      rw [hbindings] at hends
      cases hends.1
    | error e' =>
      rw [hbindings] at hends
      cases hends.1
      rfl
  | ok _ l' =>
    rw [hrun] at hends
    obtain ⟨-, hl', hbindings⟩ := hends
    refine ⟨?_, hl'⟩
    rw [hbindings, hsame]
    rfl

theorem comesTo_matchingRole (ns name : String) :
    ComesTo (Standing h server size now) (matchingRole ns name) (h.bindingsOfRole ns name) :=
  comesTo_query hshows _ _ fun _ => rfl

theorem comesTo_matchingClusterRole (name : String) :
    ComesTo (Standing h server size now) (matchingClusterRole name)
      (h.bindingsOfClusterRole name) :=
  comesTo_query hshows _ _ fun _ => rfl

end

/-- A call leaves the bindings alone. -/
theorem comesTo_fetch {α : Type} {act : Fetch α} {x : Except Fault α}
    (hact : ComesTo (ReachesAt server size now) act x) :
    ComesTo (Standing h server size now) (Linked.fetch act) x :=
  hact.onPart (fun _ hl => hl.2) fun _ _ hg hl => ⟨hl.1, hg⟩

end BindingCache

namespace Catalog

section

variable (hshows : server.Shows h size)
include hshows

/-- A role of a namespace has the grants of what is held. -/
theorem comesTo_grantsOfRole (ref : ResourceRef) :
    ComesTo (BindingCache.Standing h server size now) (grantsOfRole ref) (h.grantsOfRole ref) := by
  rw [grantsOfRole, Holdings.grantsOfRole]
  split
  next => exact comesTo_pure []
  next =>
    have href (fault : RefFault) : Fault.ref fault ≠ .endless := by simp
    refine (comesTo_ofExcept .ref href _).bind ?_
    rintro ⟨ns, name⟩ -
    have hrole : ComesTo (ReachesAt server size now) (Gateway.role ns name) (h.roleAt ns name) := by
      rw [Holdings.roleAt, ← hshows.role]
      exact comesTo_role ns name
    refine (BindingCache.comesTo_fetch hrole).bind fun role _ => ?_
    refine (BindingCache.comesTo_matchingRole hshows ns name).bind fun bindings _ => ?_
    exact comesTo_pure _

/-- A role of the cluster has the grants of what is held. -/
theorem comesTo_grantsOfClusterRole (ref : ResourceRef) :
    ComesTo (BindingCache.Standing h server size now) (grantsOfClusterRole ref)
      (h.grantsOfClusterRole ref) := by
  rw [grantsOfClusterRole, Holdings.grantsOfClusterRole]
  split
  next => exact comesTo_pure []
  next =>
    refine (BindingCache.comesTo_matchingClusterRole hshows ref.object).bind ?_
    rintro ⟨confined, clusterWide⟩ -
    have hrole : ComesTo (ReachesAt server size now) (Gateway.clusterRole ref.object)
        (h.clusterRoleAt ref.object) := by
      rw [Holdings.clusterRoleAt, ← hshows.clusterRole]
      exact comesTo_clusterRole ref.object
    refine (BindingCache.comesTo_fetch hrole).bind fun role _ => ?_
    exact comesTo_pure _

end

end Catalog

/-! ## Names of namespaces -/

namespace NamespaceCache

/-- The names that are remembered are those that are held. -/
def HeldFrom (h : Holdings) (c : NamespaceCache) : Prop :=
  ∀ names readAt, c.held = some (names, readAt) → h.namespaces = .ok names

/-- Names as they are held, with a gateway to a server. -/
def Standing (h : Holdings) (server : Server) (size : Nat) (now : String)
    (l : Linked NamespaceCache) : Prop :=
  l.own.HeldFrom h ∧ l.gateway.ReachesAt server size now

theorem eq_of_current? {c : NamespaceCache} (hheld : c.HeldFrom h) {clock : Int}
    {names : List String} (hcurrent : c.current? clock = some names) :
    h.namespaces = .ok names := by
  unfold current? at hcurrent
  split at hcurrent
  next names' readAt hnames =>
    split at hcurrent
    next =>
      cases hcurrent
      exact hheld names readAt hnames
    next => cases hcurrent
  next => cases hcurrent

theorem comesTo_names (hshows : server.Shows h size) :
    ComesTo (Standing h server size now) names h.namespaces := by
  -- Remembered names are those that a new reading would come to.
  refine comesTo_get_bind fun l hl => ?_
  cases hcurrent : l.own.current? l.gateway.clock with
  | some names =>
    rw [eq_of_current? hl.1 hcurrent]
    exact comesTo_pure names
  | none =>
    have hread : ComesTo (ReachesAt server size now) namespaceNames h.namespaces :=
      (comesTo_drain ((hshows.objects .nameSpace).exists_walk _)).bind fun _ _ =>
        comesTo_pure _
    have hfetch : ComesTo (Standing h server size now) (Linked.fetch namespaceNames)
        h.namespaces :=
      hread.onPart (fun _ hl => hl.2) fun _ _ hg hl => ⟨hl.1, hg⟩
    have hsame : (h.namespaces >>= fun names =>
        (Except.ok ⟨⟩ : Except Fault PUnit) >>= fun _ => .ok names) = h.namespaces := by
      cases h.namespaces <;> rfl
    rw [← hsame]
    refine hfetch.bind fun names hnames => ?_
    refine (comesTo_modify fun l hl => ⟨?_, hl.2⟩).bind fun _ _ => comesTo_pure names
    rintro names' readAt ⟨⟩
    exact hnames

end NamespaceCache

/-! ## Catalogues -/

namespace Catalog

/-- What becomes of a catalogue: it may remember names of namespaces that are held, and principals
that it has given. -/
def StandsFor (h : Holdings) : Catalog → Catalog → Prop
  | .clusterRoles _, c => ∃ cache : NamespaceCache, c = .clusterRoles cache ∧ cache.HeldFrom h
  | .principals listing, c => ∃ seen, c = .principals { listing with seen }
  | c₀, c => c = c₀

/-- A catalogue that remembers nothing. -/
def IsNew : Catalog → Prop
  | .clusterRoles cache => cache.held = none
  | .principals listing => listing.seen = []
  | _ => True

/-- A catalogue as it stands over a server. -/
def Standing (h : Holdings) (server : Server) (size : Nat) (now : String) (c : Catalog)
    (l : Linked Catalog) : Prop :=
  c.StandsFor h l.own ∧ l.gateway.ReachesAt server size now

variable {c : Catalog} {α : Type}

theorem StandsFor.kind_eq {c' : Catalog} (hc : c.StandsFor h c') : c'.kind = c.kind := by
  cases c with
  | inventory i =>
    cases hc
    rfl
  | roles =>
    cases hc
    rfl
  | clusterRoles cache =>
    obtain ⟨cache', rfl, -⟩ := hc
    rfl
  | principals listing =>
    obtain ⟨seen, rfl⟩ := hc
    rfl

theorem IsNew.standsFor (hc : c.IsNew) : c.StandsFor h c := by
  cases c with
  | inventory i => exact rfl
  | roles => exact rfl
  | clusterRoles cache => exact ⟨cache, rfl, fun _ _ hheld => nomatch hc ▸ hheld⟩
  | principals listing => exact ⟨listing.seen, rfl⟩

/-- The entitlements on a resource are those of what is held. -/
theorem comesTo_entitlements (hshows : server.Shows h size) (r : Resource) :
    ComesTo (Standing h server size now c) (entitlements r) (h.entitlements r c) := by
  refine comesTo_get_bind fun l hl => ?_
  cases c with
  | inventory i =>
    rw [show l.own = .inventory i from hl.1]
    exact comesTo_pure _
  | roles =>
    rw [show l.own = .roles from hl.1]
    exact comesTo_pure _
  | principals listing =>
    obtain ⟨seen, hown⟩ := hl.1
    rw [hown]
    exact comesTo_pure _
  | clusterRoles cache =>
    obtain ⟨cache', hown, -⟩ := hl.1
    rw [hown]
    have hnames : ComesTo (Standing h server size now (.clusterRoles cache)) namespaces
        h.namespaces := by
      refine comesTo_get_bind fun l hl => ?_
      obtain ⟨cache', hown, hheld⟩ := hl.1
      rw [hown]
      exact (NamespaceCache.comesTo_names hshows).onPart (fun _ hl => ⟨hheld, hl.2⟩)
        fun s _ hs _ => ⟨⟨s.own, rfl, hs.1⟩, hs.2⟩
    exact hnames.bind fun names _ => comesTo_pure _

/-- The grants of a resource are those of what is held. -/
theorem comesTo_grants (hshows : server.Shows h size) {c' : Catalog}
    (hc : c.StandsFor h c') (r : Resource) :
    ComesTo (BindingCache.Standing h server size now) (c'.grants r) (h.grants r c) := by
  cases c with
  | inventory i =>
    cases hc
    exact comesTo_pure []
  | roles =>
    cases hc
    exact comesTo_grantsOfRole hshows r.ref
  | clusterRoles cache =>
    obtain ⟨cache', rfl, -⟩ := hc
    exact comesTo_grantsOfClusterRole hshows r.ref
  | principals listing =>
    obtain ⟨seen, rfl⟩ := hc
    exact comesTo_pure []

/-! ## Listings -/

/-- A catalogue lists the objects of one list. -/
def PassesOn (c : Catalog) (kind : ResourceKind) (name : ListName)
    (serve : Server → ListCall → Answer α) (toResource : α → Except RefFault Resource) : Prop :=
  ∀ {text t} {l : Linked Catalog}, PageToken.decode text = .ok t → l.own = c →
    list text l =
      Linked.fetch (listPaged kind (fun resume => listPage name serve resume none) toResource t) l

theorem passesOn_inventory (i : Inventory) :
    PassesOn (.inventory i) i.kind (.objects i) (fun u => u.objects i)
      (Resource.ofInventory i) := by
  intro text t l ht hown
  rw [list_apply ht, hown]
  rfl

theorem passesOn_roles : PassesOn .roles .role .roles Server.roles Resource.ofRole := by
  intro text t l ht hown
  rw [list_apply ht, hown]
  rfl

theorem passesOn_clusterRoles (cache : NamespaceCache) :
    PassesOn (.clusterRoles cache) .clusterRole .clusterRoles Server.clusterRoles
      Resource.ofClusterRole := by
  intro text t l ht hown
  rw [list_apply ht, hown]
  rfl

variable {kind : ResourceKind} {name : ListName} {serve : Server → ListCall → Answer α}
  {toResource : α → Except RefFault Resource}

theorem comesTo_listPaged (t : PageToken) :
    ComesTo (ReachesAt server size now)
      (listPaged kind (fun resume => listPage name serve resume none) toResource t)
      (do
        let page ← asking name (serve server) size t.resume
        pure ⟨resourcesOf now kind toResource t.isFirstPage page.items,
          PageToken.next page.next⟩) := by
  refine (comesTo_listPage name serve t.resume).bind fun page _ => ?_
  refine comesTo_get_bind fun g hg => ?_
  rw [hg.now_eq]
  exact comesTo_pure _

/-- A catalogue that has not changed, over a server. -/
def Resting (server : Server) (size : Nat) (now : String) (c : Catalog) (l : Linked Catalog) :
    Prop :=
  l.own = c ∧ l.gateway.ReachesAt server size now

/-- A page that passes on a page of the list comes to its resources, with the token of the next. -/
theorem comesTo_pageAt (hc : c.PassesOn kind name serve toResource) (place : Option String) :
    ComesTo (Resting server size now c) (pageAt (tokenAt place))
      (do
        let page ← asking name (serve server) size place
        pure ⟨resourcesOf now kind toResource place.isNone page.items,
          PageToken.next page.next⟩) := by
  intro l hl
  rw [pageAt, hc (decode_tokenAt place) hl.1]
  have hfirst : PageToken.isFirstPage { resume := place } = place.isNone := by
    simp [PageToken.isFirstPage]
  have hpage : ComesTo (ReachesAt server size now)
      (listPaged kind (fun resume => listPage name serve resume none) toResource
        { resume := place }) _ := comesTo_listPaged _
  rw [hfirst] at hpage
  exact (hpage l.gateway hl.2).onPart fun g hg => ⟨hl.1, hg⟩

/-- The resources of a list, made page by page. -/
def making (server : Server) (size : Nat) (now : String)
    (hc : c.PassesOn kind name serve toResource) :
    Making (asking name (serve server) size) pageAt Unit where
  Remembers _ l := Resting server size now c l
  token := tokenAt
  ending := none
  made place _ items := resourcesOf now kind toResource place.isNone items
  after _ _ := ()
  token_some behind := ⟨_, rfl⟩
  fetch_ok {_ l place items behind} hl hask := by
    have hpage : ComesTo (Resting server size now c) _ _ := comesTo_pageAt hc place
    rw [hask] at hpage
    obtain ⟨l', hrun, hl'⟩ := hpage.eq_ok hl
    refine ⟨l', hrun.trans ?_, hl'⟩
    obtain ⟨next, rfl⟩ := exists_placeOf_of_asking hask
    rw [next_placeOf]
    cases placeOf next <;> rfl
  fetch_error {_ l place e} hl hask := by
    have hpage : ComesTo (Resting server size now c) _ _ := comesTo_pageAt hc place
    rw [hask] at hpage
    exact hpage.eq_error hl
  made_append place behind _ items rest := (resourcesOf_append now now place.isNone items rest).symm
  after_append _ _ _ := rfl

/-- Following a listing of one list ends as reading the list does. -/
theorem endsAs_followFrom (hc : c.PassesOn kind name serve toResource) {held : Held α}
    (hlists : server.Lists (serve server) size held) {l : Linked Catalog}
    (hl : Resting server size now c l) {fuel : Nat} (hfuel : server.pageLimit ≤ fuel) :
    EndsAs (Resting server size now c) (Holdings.listed now kind name toResource held)
      (followFrom pageAt fuel [] none l) := by
  obtain ⟨n, hn, hwalk⟩ := hlists.exists_walk name
  have hremembers : (making server size now hc).Remembers () l := hl
  have hends := (making server size now hc).endsAs_followFrom rfl hwalk hwalk.ne_endless
    hremembers (Nat.le_trans hn hfuel)
  exact hends.mono fun _ hl' => hl'.elim fun _ hl' => hl'

/-- Following the listing of a new catalogue ends with what is held. -/
theorem endsAs_resources (hshows : server.Shows h size) (hc : c.IsNew)
    {g : Gateway} (hg : g.ReachesAt server size now) {fuel : Nat}
    (hfuel : 2 * server.pageLimit ≤ fuel) :
    EndsAs (Standing h server size now c) (h.resources now c)
      (followFrom pageAt fuel [] none ⟨c, g⟩) := by
  have hstays : ∀ l, Resting server size now c l → Standing h server size now c l := by
    rintro l ⟨rfl, hl⟩
    exact ⟨hc.standsFor, hl⟩
  have hone : server.pageLimit ≤ fuel := by omega
  have hl : Resting server size now c ⟨c, g⟩ := ⟨rfl, hg⟩
  cases c with
  | inventory i =>
    exact (endsAs_followFrom (passesOn_inventory i) (hshows.objects i) hl hone).mono hstays
  | roles => exact (endsAs_followFrom passesOn_roles hshows.roles hl hone).mono hstays
  | clusterRoles cache =>
    exact (endsAs_followFrom (passesOn_clusterRoles cache) hshows.clusterRoles hl hone).mono
      hstays
  | principals listing =>
    -- Principals are made of two lists, one behind the other, and nobody has been seen before them.
    obtain ⟨principal, seen⟩ := listing
    obtain rfl : seen = [] := hc
    obtain ⟨n, hn, hroles⟩ := hshows.roleBindings.exists_walk .roleBindings
    obtain ⟨m, hm, hclusters⟩ := hshows.clusterRoleBindings.exists_walk .clusterRoleBindings
    have hends := PrincipalListing.endsAs_followFrom hroles hclusters hl
      (show n + m ≤ fuel by omega)
    simp only [PrincipalListing.fresh_new] at hends
    simp only [Holdings.resources, Holdings.bindings, bind_assoc, pure_bind]
    refine hends.mono ?_
    rintro l ⟨⟨_, seen⟩, rfl, hown, hl⟩
    exact ⟨⟨seen, hown⟩, hl⟩

end Catalog

/-! ## Tours -/

namespace Tour

/-- A tour of a catalogue over a server. -/
structure Standing (h : Holdings) (server : Server) (size : Nat) (now : String) (c : Catalog)
    (t : Tour) : Prop where
  catalog : c.StandsFor h t.catalog
  bindings : t.bindings.LoadedFrom h
  gateway : t.gateway.ReachesAt server size now

variable {c : Catalog}

section

variable (hshows : server.Shows h size)
include hshows

/-- The resources that a tour finds are those of what is held. -/
theorem endsAs_resources (hc : c.IsNew) {t : Tour} (hcatalog : t.catalog = c)
    (ht : Standing h server size now c t) :
    EndsAs (Standing h server size now c) (h.resources now c) (resources t) := by
  have hpatience : 2 * server.pageLimit ≤ 2 * t.gateway.patience := by
    rw [patience, ht.gateway.reaches.server_eq]
    omega
  have hends := Catalog.endsAs_resources hshows hc ht.gateway hpatience
  -- The tour carries its bindings from page to page, and no page of a listing asks for them.
  have hfollow : resources t =
      onCatalog (followFrom Catalog.pageAt (2 * t.gateway.patience) [] none) t := by
    rw [resources, bind_apply, get_apply, onCatalog]
    refine followFrom_onPart ?_ ?_ ?_ _ _ _ t
    · exact fun _ => rfl
    · exact fun _ _ => rfl
    · exact fun _ _ _ => rfl
  rw [hfollow, onCatalog]
  subst hcatalog
  refine EndsAs.onPart hends ?_
  exact fun l hl => ⟨hl.1, ht.bindings, hl.2⟩

/-- The details of a resource are those of what is held. -/
theorem comesTo_details (r : Resource) :
    ComesTo (Standing h server size now c) (details r) (h.details c r) := by
  have hentitlements : ComesTo (Standing h server size now c)
      (onCatalog (Catalog.entitlements r)) (h.entitlements r c) :=
    (Catalog.comesTo_entitlements hshows r).onPart (fun _ ht => ⟨ht.catalog, ht.gateway⟩)
      fun _ _ hl ht => ⟨hl.1, ht.bindings, hl.2⟩
  refine hentitlements.bind fun entitlements _ => ?_
  refine comesTo_get_bind fun t ht => ?_
  have hgrants : ComesTo (Standing h server size now c) (onBindings (t.catalog.grants r))
      (h.grants r c) :=
    (Catalog.comesTo_grants hshows ht.catalog r).onPart
      (fun _ ht => ⟨ht.bindings, ht.gateway⟩) fun _ _ hl ht => ⟨ht.catalog, hl.1, hl.2⟩
  exact hgrants.bind fun grants _ => comesTo_pure _

/-- What a tour has of a catalogue is what is held of it. -/
theorem endsAs_snapshot (hc : c.IsNew) {t : Tour} (hcatalog : t.catalog = c)
    (ht : Standing h server size now c t) :
    EndsAs (Standing h server size now c) (h.part now c) (snapshot t) := by
  refine (endsAs_resources hshows hc hcatalog ht).bind fun found _ => ?_
  refine (ComesTo.mapM fun r _ => comesTo_details hshows r).bind fun details _ => ?_
  refine comesTo_get_bind fun t ht => ?_
  rw [ht.catalog.kind_eq]
  exact comesTo_pure _

end

end Tour

/-! ## Connections that cannot be configured -/

section

variable {α : Type} {fault : Fault}

namespace Gateway

/-- The connection is still to be configured, and that will fail. -/
def Unopened (fault : Fault) (g : Gateway) : Prop :=
  g.connection.pending = some (.error fault)

theorem listPage_of_unopened {g : Gateway} (hg : g.Unopened fault) (name : ListName)
    (serve : Server → ListCall → Answer α) (resume : Option String) (limit : Option Int) :
    listPage name serve resume limit g = .error fault g := by
  have hconnect : connect g = .error fault g := by rw [connect, hg]
  simp only [listPage, place, bind_apply, get_apply, hconnect]

end Gateway

/-- Plain objects are asked for at once. -/
theorem Catalog.list_of_unopened {i : Inventory} {l : Linked Catalog} (hown : l.own = .inventory i)
    (hl : l.gateway.Unopened fault) : list "" l = .error fault l := by
  have hpage : listPaged i.kind (fun resume => listPage (.objects i) (fun u => u.objects i)
      resume none) (Resource.ofInventory i) { resume := none } l.gateway =
        .error fault l.gateway := by
    rw [listPaged, bind_apply, listPage_of_unopened hl]
  have hlist := passesOn_inventory i (decode_tokenAt none) hown
  rw [Linked.fetch_apply, hpage] at hlist
  exact hlist

/-- A tour of plain objects ends before it has begun. -/
theorem Tour.snapshot_of_unopened {t : Tour} {i : Inventory} (hcatalog : t.catalog = .inventory i)
    (ht : t.gateway.Unopened fault) (hpages : 0 < t.gateway.server.pageLimit) :
    snapshot t = .error fault t := by
  have hfirst : pageAt none t = .error fault t := by
    have hlist : Catalog.list "" ⟨t.catalog, t.gateway⟩ = .error fault ⟨t.catalog, t.gateway⟩ :=
      Catalog.list_of_unopened hcatalog ht
    rw [pageAt, onCatalog, Action.onPart, Option.getD_none, hlist]
  have hresources : resources t = .error fault t := by
    have hpatience : 0 < 2 * t.gateway.patience := by
      rw [patience]
      omega
    rw [resources, bind_apply, get_apply]
    exact followFrom_eq_error hfirst hpatience []
  rw [snapshot, bind_apply, hresources]

end

/-! ## Snapshots -/

namespace Auditor

/-- An auditor over a server, its bindings as they are held. -/
structure Standing (h : Holdings) (server : Server) (size : Nat) (now : String) (a : Auditor) :
    Prop where
  bindings : a.bindings.LoadedFrom h
  gateway : a.gateway.ReachesAt server size now

/-- A tour comes to what is held, and leaves the settings and the catalogues of an auditor. -/
theorem endsAs_tour (hshows : server.Shows h size) {c : Catalog} (hc : c.IsNew) {a : Auditor}
    (ha : Standing h server size now a) :
    EndsAs (fun a' => Standing h server size now a' ∧ a'.settings = a.settings ∧
      a'.catalogs = a.catalogs) (h.part now c) (tour c Tour.snapshot a) := by
  have ht : Tour.Standing h server size now c ⟨c, a.bindings, a.gateway⟩ :=
    ⟨hc.standsFor, ha.bindings, ha.gateway⟩
  rw [tour]
  refine EndsAs.onPart (Tour.endsAs_snapshot hshows hc rfl ht) ?_
  exact fun t ht => ⟨⟨ht.bindings, ht.gateway⟩, rfl, rfl⟩

theorem comesTo_tour (hshows : server.Shows h size) {c : Catalog} (hc : c.IsNew) :
    ComesTo (Standing h server size now) (tour c Tour.snapshot) (h.part now c) :=
  fun _ ha => (endsAs_tour hshows hc ha).mono fun _ ha' => ha'.1

/-- The catalogues of a snapshot are new. -/
theorem isNew_of_mem_freshCatalogs {settings : Settings} {c : Catalog}
    (hc : c ∈ freshCatalogs settings) : c.IsNew := by
  simp only [freshCatalogs, Catalog.fresh, List.mem_append, List.mem_cons, List.not_mem_nil,
    or_false, List.mem_map] at hc
  rcases hc with ((rfl | rfl | rfl | rfl) | ⟨i, -, rfl⟩) | rfl | rfl
  · trivial
  · trivial
  · trivial
  · rfl
  · trivial
  · rfl
  · rfl

/-- The tours of a snapshot come to what is held, whatever size of pages they ask for. -/
theorem comesTo_parts (hshows : server.Shows h size) (settings : Settings) :
    ComesTo (Standing h server size now)
      ((freshCatalogs settings).mapM fun c => tour c Tour.snapshot)
      ((freshCatalogs settings).mapM (h.part now)) :=
  ComesTo.mapM fun _ hc => comesTo_tour hshows (isNew_of_mem_freshCatalogs hc)

/-- Over a connection that can be configured, a snapshot comes to what is held. -/
theorem outcome_snapshot {settings : Settings} {gateway : Gateway}
    (hshows : gateway.server.Shows h settings.pageSize) (hfailures : gateway.failures = [])
    (hopens : ∀ fault, gateway.connection.pending ≠ some (.error fault)) :
    (snapshot.outcome (ofGateway settings gateway)).1 = h.snapshot gateway.now settings ∧
      h.snapshot gateway.now settings ≠ .error .endless := by
  have hstanding : Standing h gateway.server settings.pageSize gateway.now
      (ofGateway settings gateway) :=
    ⟨fun hloaded => absurd hloaded Bool.false_ne_true, ⟨rfl, rfl, hfailures, hopens⟩, rfl⟩
  have hparts : ComesTo (Standing h gateway.server settings.pageSize gateway.now)
      (do
        let parts ← (freshCatalogs settings).mapM fun c => tour c Tour.snapshot
        pure (Snapshot.join parts))
      (h.snapshot gateway.now settings) :=
    (comesTo_parts hshows settings).bind fun parts _ => comesTo_pure _
  exact hparts.outcome_eq hstanding

/-- Over a connection that cannot be configured, a snapshot meets the reason at its first call. -/
theorem snapshot_of_unopened {a : Auditor} {fault : Fault} (ha : a.gateway.Unopened fault)
    (hpages : 0 < a.gateway.server.pageLimit) : snapshot a = .error fault a := by
  have hfirst : tour (.inventory .nameSpace) Tour.snapshot a = .error fault a := by
    have hsnapshot : Tour.snapshot ⟨.inventory .nameSpace, a.bindings, a.gateway⟩ =
        .error fault ⟨.inventory .nameSpace, a.bindings, a.gateway⟩ :=
      Tour.snapshot_of_unopened rfl ha hpages
    rw [tour, Action.onPart, hsnapshot]
  rw [snapshot, bind_apply, get_apply]
  simp only [freshCatalogs, Catalog.fresh, List.cons_append, List.mapM_cons]
  simp only [bind_apply, hfirst]

/-- The size of pages does not matter: snapshots by new auditors of a cluster that stays as it is
come to the same, or meet the same fault, and neither meets a list that never ends. -/
theorem snapshot_pageSize {gateway : Gateway} {p q : Nat} (hp : gateway.server.Shows h p)
    (hq : gateway.server.Shows h q) (hfailures : gateway.failures = [])
    (hpending : gateway.connection.pending ≠ some (.error .endless)) (settings : Settings) :
    (snapshot.outcome (ofGateway { settings with pageSize := p } gateway)).1 =
        (snapshot.outcome (ofGateway { settings with pageSize := q } gateway)).1 ∧
      (snapshot.outcome (ofGateway { settings with pageSize := p } gateway)).1 ≠
        .error .endless := by
  by_cases hopens : ∀ fault, gateway.connection.pending ≠ some (.error fault)
  case pos =>
    -- What is held is seen by the settings, but not by the size of pages among them.
    have hcomes (size : Nat) (hsize : gateway.server.Shows h size) :
        (snapshot.outcome (ofGateway { settings with pageSize := size } gateway)).1 =
            h.snapshot gateway.now settings ∧
          h.snapshot gateway.now settings ≠ .error .endless :=
      outcome_snapshot hsize hfailures hopens
    rw [(hcomes p hp).1, (hcomes q hq).1]
    exact ⟨rfl, (hcomes p hp).2⟩
  case neg =>
    obtain ⟨fault, hfault⟩ : ∃ fault, gateway.connection.pending = some (.error fault) := by
      simpa using hopens
    have hfails (size : Nat) :
        snapshot.outcome (ofGateway { settings with pageSize := size } gateway) =
          (.error fault, ofGateway { settings with pageSize := size } gateway) := by
      have hunopened : (ofGateway { settings with pageSize := size } gateway).gateway.Unopened
          fault := hfault
      rw [outcome, snapshot_of_unopened hunopened hp.roles.pageLimit_pos]
    rw [hfails, hfails]
    refine ⟨rfl, fun heq => hpending ?_⟩
    rw [hfault, Except.error.inj heq]

/-- The role of those who read in the one team. -/
def reader : Role where
  object := { kind := "Role", name := "reader", ns := some "team-a" }
  rules := [{ verbs := ["get", "list"], apiGroups := [""], resources := ["pods"] }]

/-- The role of those who keep secrets. -/
def keeper : ClusterRole where
  object := { kind := "ClusterRole", name := "keeper" }
  rules := [{ verbs := ["*"], apiGroups := [""], resources := ["secrets"] }]

/-- What an office holds: two namespaces and an object without a name among them, two roles, and
bindings that name one user over and over. -/
def office : Holdings where
  roles := .ok [.ok reader]
  clusterRoles := .ok [.ok keeper]
  roleBindings := .ok [
    .ok ⟨"readers", "team-a", ⟨"Role", "reader", ""⟩, [⟨"User", "alice", "", ""⟩]⟩,
    .ok ⟨"others", "team-a", ⟨"Role", "reader", ""⟩,
      [⟨"Group", "dev", "", ""⟩, ⟨"User", "alice", "", ""⟩]⟩,
    .ok ⟨"keepers", "team-b", ⟨"ClusterRole", "keeper", ""⟩, [⟨"User", "bob", "", ""⟩]⟩]
  clusterRoleBindings := .ok [
    .ok ⟨"keepers", ⟨"ClusterRole", "keeper", ""⟩, [⟨"User", "alice", "", ""⟩]⟩,
    .ok ⟨"ops", ⟨"ClusterRole", "keeper", ""⟩, [⟨"Group", "ops", "", ""⟩]⟩]
  objects
    | .nameSpace => .ok [
      .ok { kind := "Namespace", name := "team-a" }, .ok { kind := "Namespace", name := "" },
      .ok { kind := "Namespace", name := "team-b" }]
    | _ => .ok []
  role _ _ := .ok (.ok reader)
  clusterRole _ := .ok (.ok keeper)

/-- A gateway to the office. -/
def officeGateway : Gateway where
  server := office.server
  pageSize := 1

/-- Object by object or three at a time, the office comes to the same resources and grants. -/
theorem snapshot_pageSize_office :
    (office.server.Shows office 1 ∧ office.server.Shows office 3) ∧
      (snapshot.outcome (ofGateway { pageSize := 1 } officeGateway)).1 =
        (snapshot.outcome (ofGateway { pageSize := 3 } officeGateway)).1 ∧
      (snapshot.outcome (ofGateway { pageSize := 1 } officeGateway)).1.map
        (fun s => (s.resources.length, s.grants.length)) = .ok (22, 16) := by
  have hone : office.server.Shows office 1 := office.shows_server (by decide)
  have hthree : office.server.Shows office 3 := office.shows_server (by decide)
  have hopens : ∀ fault, officeGateway.connection.pending ≠ some (.error fault) := fun _ => nofun
  have hsame : (snapshot.outcome (ofGateway { pageSize := 1 } officeGateway)).1 =
      (snapshot.outcome (ofGateway { pageSize := 3 } officeGateway)).1 :=
    (snapshot_pageSize hone hthree rfl (hopens .endless) {}).1
  have hheld : (snapshot.outcome (ofGateway { pageSize := 1 } officeGateway)).1 =
      office.snapshot "" { pageSize := 1 } :=
    (outcome_snapshot hone rfl hopens).1
  refine ⟨⟨hone, hthree⟩, hsame, ?_⟩
  rw [hheld]
  rfl

end Auditor
end ClusterAccess
