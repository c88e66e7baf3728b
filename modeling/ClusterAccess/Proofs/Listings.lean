/-
  ClusterAccess.Proofs.Listings

  The listings of catalogues over a server with fixed contents. The tokens that a
  listing gives lead from the first page to the last one: page by page through one
  list of the server, or through the bindings of namespaces and then those of the
  cluster.
-/
import ClusterAccess.Proofs.ContentGrants
import ClusterAccess.Proofs.TokenRoundTrip
import ClusterAccess.Snapshot

namespace ClusterAccess

/-! ## Catalogues -/

namespace Catalog

/-- Two catalogues list the same: they differ at most in what they remember. -/
def Alike : Catalog → Catalog → Prop
  | .inventory i, .inventory j => i = j
  | .roles, .roles => True
  | .clusterRoles _, .clusterRoles _ => True
  | .principals _, .principals _ => True
  | _, _ => False

/-- A catalogue that lists as `c` does, with a gateway that reaches a server. -/
def Serving (c : Catalog) (server : Server) (size : Nat) (l : Linked Catalog) : Prop :=
  l.own.Alike c ∧ l.gateway.Reaches server size

theorem alike_refl (c : Catalog) : c.Alike c := by
  cases c with
  | inventory i => exact rfl
  | roles => exact trivial
  | clusterRoles cache => exact trivial
  | principals listing => exact trivial

variable {c : Catalog} {server : Server} {size : Nat} {α : Type}

theorem eq_inventory_of_alike {i : Inventory} (h : c.Alike (.inventory i)) : c = .inventory i := by
  cases c with
  | inventory j => exact congrArg inventory h
  | roles => cases h
  | clusterRoles cache => cases h
  | principals listing => cases h

theorem eq_roles_of_alike (h : c.Alike .roles) : c = .roles := by
  cases c with
  | inventory j => cases h
  | roles => rfl
  | clusterRoles cache => cases h
  | principals listing => cases h

theorem exists_clusterRoles_of_alike {cache : NamespaceCache} (h : c.Alike (.clusterRoles cache)) :
    ∃ cache', c = .clusterRoles cache' := by
  cases c with
  | inventory j => cases h
  | roles => cases h
  | clusterRoles cache' => exact ⟨cache', rfl⟩
  | principals listing => cases h

theorem exists_principals_of_alike {listing : PrincipalListing}
    (h : c.Alike (.principals listing)) : ∃ listing', c = .principals listing' := by
  cases c with
  | inventory j => cases h
  | roles => cases h
  | clusterRoles cache => cases h
  | principals listing' => exact ⟨listing', rfl⟩

/-! ## Through one list -/

/-- The token that leads to a place of a single list; the first page has none. -/
def tokenAt (place : Option String) : Option String :=
  place.map fun p => PageToken.encode { resume := some p }

theorem decode_tokenAt (place : Option String) :
    PageToken.decode ((tokenAt place).getD "") = .ok { resume := place } := by
  cases place with
  | none => rfl
  | some p => exact PageToken.decode_encode _

/-- The token of the next page leads to the place where it begins. -/
theorem next_placeOf (next : Option String) :
    PageToken.next (Gateway.placeOf next) = tokenAt (Gateway.placeOf next) := by
  cases hnext : Gateway.placeOf next with
  | none => rfl
  | some place =>
    -- An empty place is no place, so no token stands for it.
    have hplace : place ≠ "" := by
      simp only [Gateway.placeOf, Option.filter_eq_some_iff, decide_eq_true_eq] at hnext
      exact hnext.2
    rw [PageToken.next]
    simp only [hplace, if_false]
    rfl

/-- Only the first page of a listing has the whole kind in front. -/
theorem resourcesOf_append {kind : ResourceKind} {toResource : α → Except RefFault Resource}
    (now later : String) (isFirst : Bool) (items rest : List α) :
    resourcesOf now kind toResource isFirst items ++ resourcesOf later kind toResource false rest =
      resourcesOf now kind toResource isFirst (items ++ rest) := by
  simp [resourcesOf]

/-- One page of a listing holds the resources of one page of the list, and the token of the next. -/
theorem yields_listPaged {kind : ResourceKind} (name : ListName)
    {serve : Server → ListCall → Answer α} {toResource : α → Except RefFault Resource}
    {place next : Option String} {items : List α} (hplace : Gateway.placeOf place = place)
    (h : serve server ⟨size, place⟩ = .ok ⟨items.map .ok, next⟩) :
    Action.Yields (Gateway.Reaches server size)
      (listPaged kind (fun resume => Gateway.listPage name serve resume none) toResource
        { resume := place })
      fun page => ∃ now, page =
        ⟨resourcesOf now kind toResource place.isNone items, tokenAt (Gateway.placeOf next)⟩ := by
  refine (Gateway.yields_listPage name hplace h).bind ?_
  rintro _ rfl
  refine Action.yields_get.bind fun g _ => Action.yields_pure ⟨g.now, ?_⟩
  have hfirst : PageToken.isFirstPage { resume := place } = place.isNone := by
    simp [PageToken.isFirstPage]
  rw [next_placeOf, hfirst]

variable {text : String} {t : PageToken} {l : Linked Catalog}

/-- Once its token is read, a listing is that of the catalogue's own sort. -/
theorem list_apply (ht : PageToken.decode text = .ok t) :
    list text l = match l.own with
      | .inventory i => Linked.fetch (listInventory i t) l
      | .roles => Linked.fetch (listRoles t) l
      | .clusterRoles _ => Linked.fetch (listClusterRoles t) l
      | .principals listing =>
        Linked.within listing Catalog.principals (PrincipalListing.list t) l := by
  obtain ⟨own, gateway⟩ := l
  rw [list, ht]
  cases own <;> rfl

/-- A catalogue that only passes calls on yields what the calls yield. -/
theorem yields_list_of_fetch (act : Fetch (Page Resource)) {Q : Page Resource → Prop}
    (hlist : ∀ l : Linked Catalog, l.own.Alike c → list text l = Linked.fetch act l)
    (h : Action.Yields (Gateway.Reaches server size) act Q) :
    Action.Yields (Serving c server size) (list text) Q := by
  intro l hl
  have hfetch : Action.Yields (Serving c server size) (Linked.fetch act) Q :=
    h.onPart (fun _ hl => hl.2) fun _ _ hg hl => ⟨hl.1, hg⟩
  obtain ⟨page, l', hrun, hl', hpage⟩ := hfetch l hl
  exact ⟨page, l', (hlist l hl.1).trans hrun, hl', hpage⟩

/-- A catalogue lists the objects of one list: page by page it gives their resources, and the tokens
    that lead on. -/
def ListsAs (c : Catalog) (server : Server) (size : Nat) (serve : Server → ListCall → Answer α)
    (kind : ResourceKind) (toResource : α → Except RefFault Resource) : Prop :=
  ∀ {place next : Option String} {items : List α}, Gateway.placeOf place = place →
    serve server ⟨size, place⟩ = .ok ⟨items.map .ok, next⟩ →
      Action.Yields (Serving c server size) (list ((tokenAt place).getD "")) fun page =>
        ∃ now, page = ⟨resourcesOf now kind toResource place.isNone items,
          tokenAt (Gateway.placeOf next)⟩

theorem listsAs_inventory (i : Inventory) :
    ListsAs (.inventory i) server size (fun u => u.objects i) i.kind (Resource.ofInventory i) := by
  intro place next items hplace h
  refine yields_list_of_fetch (listInventory i { resume := place }) (fun l hl => ?_)
    (yields_listPaged (.objects i) hplace h)
  rw [list_apply (decode_tokenAt place), eq_inventory_of_alike hl]

theorem listsAs_roles : ListsAs .roles server size Server.roles .role Resource.ofRole := by
  intro place next items hplace h
  refine yields_list_of_fetch (listRoles { resume := place }) (fun l hl => ?_)
    (yields_listPaged .roles hplace h)
  rw [list_apply (decode_tokenAt place), eq_roles_of_alike hl]

theorem listsAs_clusterRoles (cache : NamespaceCache) :
    ListsAs (.clusterRoles cache) server size Server.clusterRoles .clusterRole
      Resource.ofClusterRole := by
  intro place next items hplace h
  refine yields_list_of_fetch (listClusterRoles { resume := place }) (fun l hl => ?_)
    (yields_listPaged .clusterRoles hplace h)
  obtain ⟨cache', hown⟩ := exists_clusterRoles_of_alike hl
  rw [list_apply (decode_tokenAt place), hown]

end Catalog

/-! ## To the end of a list -/

namespace Tour

/-- A tour of a catalogue over a server with these contents. -/
structure Serving (contents : Contents) (server : Server) (size : Nat) (c : Catalog) (t : Tour) :
    Prop where
  alike : t.catalog.Alike c
  holds : t.bindings.HoldsOf contents
  reaches : t.gateway.Reaches server size

variable {contents : Contents} {server : Server} {size : Nat} {c : Catalog} {α : Type}

theorem yields_onCatalog {β : Type} {act : Action (Linked Catalog) β} {Q : β → Prop}
    (h : Action.Yields (Catalog.Serving c server size) act Q) :
    Action.Yields (Serving contents server size c) (onCatalog act) Q :=
  h.onPart (fun _ ht => ⟨ht.alike, ht.reaches⟩) fun _ _ hl ht => ⟨hl.1, ht.holds, hl.2⟩

theorem yields_onBindings {β : Type} {act : Action (Linked BindingCache) β} {Q : β → Prop}
    (h : Action.Yields (BindingCache.Serving contents server size) act Q) :
    Action.Yields (Serving contents server size c) (onBindings act) Q :=
  h.onPart (fun _ ht => ⟨ht.holds, ht.reaches⟩) fun _ _ hl ht => ⟨ht.alike, hl.1, hl.2⟩

/-- A page of the catalogue, by the token that the page before it gave. -/
def pageAt (token : Option String) : Action Tour (Page Resource) :=
  onCatalog (Catalog.list (token.getD ""))

/-- A listing that is no longer than two lists of the server is followed to its end. -/
theorem resources_of_pages {n : Nat} {t t' : Tour} {found : List Resource}
    (h : Gateway.Pages pageAt n none t found t') (hn : n ≤ 2 * t.gateway.patience) :
    resources t = .ok found t' := by
  rw [resources, Action.bind_apply, Action.get_apply]
  exact Gateway.followFrom_of_pages h [] hn

/-- The tokens of a listing lead to the end of its list. -/
theorem pages_of_listsAs {serve : Server → ListCall → Answer α} {kind : ResourceKind}
    {toResource : α → Except RefFault Resource}
    (hlists : c.ListsAs server size serve kind toResource) {n : Nat} {place : Option String}
    {items : List α} (h : Server.Serves (serve server) size n place items)
    (hplace : Gateway.placeOf place = place) {t : Tour} (ht : Serving contents server size c t) :
    ∃ now t', Gateway.Pages pageAt n (Catalog.tokenAt place) t
        (Catalog.resourcesOf now kind toResource place.isNone items) t' ∧
      Serving contents server size c t' := by
  -- The time of a page shows in the whole kind only, which the first page has.
  induction h generalizing t with
  | last hserve hnext =>
    obtain ⟨page, t', hrun, ht', now, rfl⟩ := yields_onCatalog (hlists hplace hserve) t ht
    rw [hnext] at hrun
    exact ⟨now, t', .last hrun, ht'⟩
  | more hserve hnext _ ih =>
    obtain ⟨page, t', hrun, ht', now, rfl⟩ := yields_onCatalog (hlists hplace hserve) t ht
    rw [hnext] at hrun
    obtain ⟨later, t'', hpages, ht''⟩ := ih (by rw [← hnext, Gateway.placeOf_placeOf]) ht'
    refine ⟨now, t'', ?_, ht''⟩
    rw [← Catalog.resourcesOf_append now later]
    exact .more hrun hpages

/-- All resources of a catalogue that lists the objects of one list. -/
theorem yields_resources_of_listsAs {serve : Server → ListCall → Answer α} {kind : ResourceKind}
    {toResource : α → Except RefFault Resource} {items : List α}
    (hlists : c.ListsAs server size serve kind toResource)
    (h : server.ServesWhole size serve items) :
    Action.Yields (Serving contents server size c) resources fun found =>
      ∃ now, found = Catalog.resourcesOf now kind toResource true items := by
  intro t ht
  obtain ⟨n, hn, hserves⟩ := h
  obtain ⟨now, t', hpages, ht'⟩ := pages_of_listsAs hlists hserves rfl ht
  refine ⟨_, t', resources_of_pages hpages ?_, ht', now, rfl⟩
  rw [Gateway.patience, ht.reaches.server_eq]
  omega

end Tour

/-! ## Through the bindings -/

namespace PrincipalListing

variable {server : Server} {size : Nat}

theorem yields_give (names : List String) :
    Action.Yields (fun l : Linked PrincipalListing => l.gateway.Reaches server size) (give names)
      fun _ => True := by
  intro l hl
  exact ⟨_, _, rfl, hl, trivial⟩

/-- Where a server lists the bindings of a phase. -/
def Phased (server : Server) (size : Nat) (phase : BindingPhase) (place next : Option String) :
    Prop :=
  match phase with
  | .roleBindings => ∃ items : List RoleBinding,
      server.roleBindings ⟨size, place⟩ = .ok ⟨items.map .ok, next⟩
  | .clusterRoleBindings => ∃ items : List ClusterRoleBinding,
      server.clusterRoleBindings ⟨size, place⟩ = .ok ⟨items.map .ok, next⟩

theorem yields_subjectsPage {phase : BindingPhase} {place next : Option String}
    (hplace : Gateway.placeOf place = place) (h : Phased server size phase place next) :
    Action.Yields (Gateway.Reaches server size) (subjectsPage place phase)
      fun page => page.next = Gateway.placeOf next := by
  cases phase with
  | roleBindings =>
    obtain ⟨items, h⟩ := h
    refine (Gateway.yields_listPage .roleBindings hplace h).bind ?_
    rintro _ rfl
    exact Action.yields_pure rfl
  | clusterRoleBindings =>
    obtain ⟨items, h⟩ := h
    refine (Gateway.yields_listPage .clusterRoleBindings hplace h).bind ?_
    rintro _ rfl
    exact Action.yields_pure rfl

/-- A page of principals leads on as the page of bindings does that it is read from. -/
theorem yields_list {t : PageToken} {next : Option String}
    (hplace : Gateway.placeOf t.resume = t.resume)
    (h : Phased server size (t.phase.getD .roleBindings) t.resume next) :
    Action.Yields (fun l : Linked PrincipalListing => l.gateway.Reaches server size) (list t)
      fun page => page.next = (nextToken (t.phase.getD .roleBindings)
        (Gateway.placeOf next)).map PageToken.encode := by
  refine Action.yields_get.bind fun l hl => ?_
  refine (yields_give _).bind fun _ _ => ?_
  refine ((yields_subjectsPage hplace h).onPart (fun _ hl => hl) fun _ _ hg _ => hg).bind ?_
  intro page hpage
  refine (yields_give _).bind fun _ _ => Action.yields_pure ?_
  rw [hpage]

/-- The token that leads to a place in a phase; the first page has none. -/
def tokenIn (phase : BindingPhase) (place : Option String) : Option String :=
  if phase = .roleBindings ∧ place = none then none
  else some (PageToken.encode { phase := some phase, resume := place })

theorem decode_tokenIn (phase : BindingPhase) (place : Option String) :
    ∃ t, PageToken.decode ((tokenIn phase place).getD "") = .ok t ∧
      t.phase.getD .roleBindings = phase ∧ t.resume = place := by
  by_cases hfirst : phase = .roleBindings ∧ place = none
  · obtain ⟨rfl, rfl⟩ := hfirst
    exact ⟨{}, rfl, rfl, rfl⟩
  · rw [tokenIn, if_neg hfirst]
    exact ⟨_, PageToken.decode_encode _, rfl, rfl⟩

/-- Inside a phase the next token leads to the next place. -/
theorem nextToken_some (phase : BindingPhase) (place : String) :
    (nextToken phase (some place)).map PageToken.encode = tokenIn phase (some place) := by
  cases phase <;> rfl

/-- Behind the bindings of namespaces come those of the cluster. -/
theorem nextToken_roleBindings :
    (nextToken .roleBindings none).map PageToken.encode = tokenIn .clusterRoleBindings none := rfl

theorem nextToken_clusterRoleBindings :
    (nextToken .clusterRoleBindings none).map PageToken.encode = none := rfl

theorem yields_list_catalog {listing : PrincipalListing} {phase : BindingPhase}
    {place next : Option String} (hplace : Gateway.placeOf place = place)
    (h : Phased server size phase place next) :
    Action.Yields (Catalog.Serving (.principals listing) server size)
      (Catalog.list ((tokenIn phase place).getD ""))
      fun page => page.next = (nextToken phase (Gateway.placeOf next)).map PageToken.encode := by
  intro l hl
  obtain ⟨t, hdecode, rfl, rfl⟩ := decode_tokenIn phase place
  obtain ⟨listing', hown⟩ := Catalog.exists_principals_of_alike hl.1
  have hwithin : Action.Yields (Catalog.Serving (.principals listing) server size)
      (Linked.within listing' Catalog.principals (list t)) _ :=
    (yields_list hplace h).onPart (fun _ hl => hl.2) fun _ _ hg _ => ⟨trivial, hg⟩
  have hlist : Catalog.list ((tokenIn _ _).getD "") l = _ := Catalog.list_apply hdecode
  rw [hown] at hlist
  rw [hlist]
  exact hwithin l hl

end PrincipalListing

namespace Tour

open PrincipalListing (tokenIn)

variable {contents : Contents} {server : Server} {size : Nat} {listing : PrincipalListing}

/-- A page of principals, with the token of the next one. -/
theorem exists_pageAt (phase : BindingPhase) {place next : Option String}
    (hplace : Gateway.placeOf place = place)
    (h : PrincipalListing.Phased server size phase place next) {t : Tour}
    (ht : Serving contents server size (.principals listing) t) :
    ∃ items t', pageAt (tokenIn phase place) t = .ok
        ⟨items, (PrincipalListing.nextToken phase (Gateway.placeOf next)).map PageToken.encode⟩ t' ∧
      Serving contents server size (.principals listing) t' := by
  obtain ⟨⟨items, token⟩, t', hrun, ht', rfl⟩ :=
    yields_onCatalog (PrincipalListing.yields_list_catalog hplace h) t ht
  exact ⟨items, t', hrun, ht'⟩

/-- The listing goes through the bindings of the cluster to their end. -/
theorem pages_clusterRoleBindings {n : Nat} {place : Option String}
    {items : List ClusterRoleBinding}
    (h : Server.Serves server.clusterRoleBindings size n place items)
    (hplace : Gateway.placeOf place = place) {t : Tour}
    (ht : Serving contents server size (.principals listing) t) :
    ∃ found t', Gateway.Pages pageAt n (tokenIn .clusterRoleBindings place) t found t' ∧
      Serving contents server size (.principals listing) t' := by
  induction h generalizing t with
  | last hserve hnext =>
    obtain ⟨found, t', hrun, ht'⟩ := exists_pageAt .clusterRoleBindings hplace ⟨_, hserve⟩ ht
    rw [hnext, PrincipalListing.nextToken_clusterRoleBindings] at hrun
    exact ⟨found, t', .last hrun, ht'⟩
  | more hserve hnext _ ih =>
    obtain ⟨found, t', hrun, ht'⟩ := exists_pageAt .clusterRoleBindings hplace ⟨_, hserve⟩ ht
    rw [hnext, PrincipalListing.nextToken_some] at hrun
    obtain ⟨later, t'', hpages, ht''⟩ := ih (by rw [← hnext, Gateway.placeOf_placeOf]) ht'
    exact ⟨found ++ later, t'', .more hrun hpages, ht''⟩

/-- The listing goes through the bindings of namespaces, and then through those of the cluster. -/
theorem pages_roleBindings {m n : Nat} {place : Option String} {items : List RoleBinding}
    {behind : List ClusterRoleBinding}
    (hbehind : Server.Serves server.clusterRoleBindings size m none behind)
    (h : Server.Serves server.roleBindings size n place items)
    (hplace : Gateway.placeOf place = place) {t : Tour}
    (ht : Serving contents server size (.principals listing) t) :
    ∃ found t', Gateway.Pages pageAt (n + m) (tokenIn .roleBindings place) t found t' ∧
      Serving contents server size (.principals listing) t' := by
  -- Behind the last page of the one list stands a token for the first page of the other one.
  induction h generalizing t with
  | last hserve hnext =>
    obtain ⟨found, t', hrun, ht'⟩ := exists_pageAt .roleBindings hplace ⟨_, hserve⟩ ht
    rw [hnext, PrincipalListing.nextToken_roleBindings] at hrun
    obtain ⟨later, t'', hpages, ht''⟩ := pages_clusterRoleBindings hbehind rfl ht'
    rw [Nat.add_comm]
    exact ⟨found ++ later, t'', .more hrun hpages, ht''⟩
  | more hserve hnext _ ih =>
    obtain ⟨found, t', hrun, ht'⟩ := exists_pageAt .roleBindings hplace ⟨_, hserve⟩ ht
    rw [hnext, PrincipalListing.nextToken_some] at hrun
    obtain ⟨later, t'', hpages, ht''⟩ := ih (by rw [← hnext, Gateway.placeOf_placeOf]) ht'
    rw [Nat.add_right_comm]
    exact ⟨found ++ later, t'', .more hrun hpages, ht''⟩

/-- A listing of principals comes to its end. -/
theorem yields_resources_principals (h : server.Delivers size contents) :
    Action.Yields (Serving contents server size (.principals listing)) resources
      fun _ => True := by
  intro t ht
  obtain ⟨n, hn, hserves⟩ := h.roleBindings
  obtain ⟨m, hm, hbehind⟩ := h.clusterRoleBindings
  obtain ⟨found, t', hpages, ht'⟩ := pages_roleBindings hbehind hserves rfl ht
  -- Each of the two lists ends within the patience for one.
  refine ⟨found, t', resources_of_pages hpages ?_, ht', trivial⟩
  rw [Gateway.patience, ht.reaches.server_eq]
  omega

end Tour
end ClusterAccess
