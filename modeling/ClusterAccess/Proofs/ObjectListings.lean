/-
  ClusterAccess.Proofs.ObjectListings

  Listings that walk one list of the server: plain objects, roles, cluster roles.
  However the list is divided into pages, such a listing takes one call for each of
  them, and gives the resource of the whole kind and then those of the objects that
  have the names they need, in order. An object without them is missing from its
  page, and nothing else is.
-/
import ClusterAccess.Proofs.GatewayCalls
import ClusterAccess.Proofs.ResourceIds

namespace ClusterAccess

open ClusterAccess.Action Gateway

/-! ## Objects with names -/

/-- An object has the names that its id takes: its own, and where its kind lives in namespaces, that
of its namespace. -/
def ClusterObject.HasNames (kind : ResourceKind) (o : ClusterObject) : Prop :=
  o.name ≠ "" ∧ (kind.isNamespaced → o.ns.getD "" ≠ "")

instance (kind : ResourceKind) (o : ClusterObject) : Decidable (o.HasNames kind) :=
  inferInstanceAs (Decidable (_ ∧ _))

namespace Resource

variable {kind : ResourceKind} {o : ClusterObject} {r : Resource}

/-- The objects with names are those that can be referred to. -/
theorem exists_refOf_iff : (∃ ref, refOf kind o = .ok ref) ↔ o.HasNames kind := by
  have hwild : wildcard ≠ "" := by decide
  cases hkind : kind.isNamespaced with
  | false =>
    have hbare : o.HasNames kind ↔ o.name ≠ "" := by simp [ClusterObject.HasNames, hkind]
    rw [hbare, refOf, if_neg (by simp [hkind]), ResourceRef.make]
    split
    next hempty => exact iff_of_false (by rintro ⟨ref, ⟨⟩⟩) (not_not_intro hempty)
    next hname => exact iff_of_true ⟨_, rfl⟩ hname
  | true =>
    have hboth : o.HasNames kind ↔ o.name ≠ "" ∧ o.ns.getD "" ≠ "" := by
      simp [ClusterObject.HasNames, hkind]
    rw [hboth, refOf, if_pos hkind, ResourceRef.makeNamespaced]
    split
    next hspells =>
      rw [hspells.1, hspells.2]
      exact iff_of_true ⟨_, rfl⟩ ⟨hwild, hwild⟩
    next =>
      split
      next hempty =>
        refine iff_of_false (by rintro ⟨ref, ⟨⟩⟩) ?_
        rintro ⟨hname, hns⟩
        exact hempty.elim hns hname
      next hsome =>
        rw [not_or] at hsome
        exact iff_of_true ⟨_, rfl⟩ ⟨hsome.2, hsome.1⟩

theorem isOf_of_ofObject {description : Option String} (h : ofObject kind description o = .ok r) :
    IsOf kind o r := by
  rw [ofObject] at h
  obtain ⟨ref, href, hr⟩ := exists_of_bind_ok h
  cases hr
  exact ⟨href, rfl⟩

theorem isOf_of_ofClusterRole {role : ClusterRole} (h : ofClusterRole role = .ok r) :
    IsOf .clusterRole role.object r := by
  rw [ofClusterRole] at h
  obtain ⟨resource, hresource, hr⟩ := exists_of_bind_ok h
  cases hr
  have hof := isOf_of_ofObject hresource
  exact ⟨hof.ref, hof.displayName⟩

/-- The object part of a reference ends in the name of the object. -/
theorem object_of_refOf {ref : ResourceRef} (href : refOf kind o = .ok ref) :
    o.name ≠ "" ∧ (ref.object = o.name ∨ ∃ ns, ref.object = ns ++ "/" ++ o.name) := by
  have hname : o.name ≠ "" := (exists_refOf_iff.1 ⟨ref, href⟩).1
  refine ⟨hname, ?_⟩
  cases hkind : kind.isNamespaced with
  | false =>
    rw [refOf_bare hkind hname] at href
    cases href
    exact .inl rfl
  | true =>
    rw [refOf, if_pos hkind, ResourceRef.makeNamespaced] at href
    split at href
    next hspells =>
      cases href
      exact .inl hspells.2.symm
    next =>
      split at href
      next => cases href
      next =>
        cases href
        exact .inr ⟨_, rfl⟩

/-- No object becomes the resource of its whole kind: one that is called like the kind as a whole
    shows another name, and one that shows the same name is called otherwise. -/
theorem IsOf.ne_whole_kind (hof : IsOf kind o r) (now : String) : r ≠ whole now kind := by
  intro heq
  have hobject : r.ref.object = wildcard := by rw [heq]; rfl
  rcases (object_of_refOf hof.ref).2 with hbare | ⟨ns, hplaced⟩
  · exact hof.ne_whole (hbare.symm.trans hobject) heq
  · exact ResourceRef.namespaced_ne_wildcard (hplaced.symm.trans hobject)

end Resource

/-! ## Lists of objects -/

/-- A list of the server with what its items become: each is an object that has a resource of its
own if it can be referred to. -/
structure ObjectList (kind : ResourceKind) (α : Type) where
  name : ListName
  serve : Server → ListCall → Answer α
  object : α → ClusterObject
  toResource : α → Except RefFault Resource
  isOf_of_ok : ∀ {x r}, toResource x = .ok r → Resource.IsOf kind (object x) r
  exists_of_ref : ∀ {x ref}, Resource.refOf kind (object x) = .ok ref → ∃ r, toResource x = .ok r

namespace ObjectList

/-- The plain objects of a kind. -/
def inventory (i : Inventory) : ObjectList i.kind ClusterObject where
  name := .objects i
  serve server := server.objects i
  object o := o
  toResource := Resource.ofInventory i
  isOf_of_ok := Resource.isOf_of_ofObject
  exists_of_ref href := (Resource.exists_ofObject _ href).imp fun _ hr => hr.1

/-- The roles of namespaces. -/
def roles : ObjectList .role Role where
  name := .roles
  serve := Server.roles
  object := Role.object
  toResource := Resource.ofRole
  isOf_of_ok := Resource.isOf_of_ofObject
  exists_of_ref href := (Resource.exists_ofObject _ href).imp fun _ hr => hr.1

/-- The roles of the cluster. -/
def clusterRoles : ObjectList .clusterRole ClusterRole where
  name := .clusterRoles
  serve := Server.clusterRoles
  object := ClusterRole.object
  toResource := Resource.ofClusterRole
  isOf_of_ok := Resource.isOf_of_ofClusterRole
  exists_of_ref href := (Resource.exists_isOf_ofClusterRole href).imp fun _ hr => hr.1

variable {kind : ResourceKind} {α : Type} (list : ObjectList kind α)

theorem exists_toResource_iff (x : α) :
    (∃ r, list.toResource x = .ok r) ↔ (list.object x).HasNames kind := by
  rw [← Resource.exists_refOf_iff]
  constructor
  · rintro ⟨r, hr⟩
    exact ⟨r.ref, (list.isOf_of_ok hr).ref⟩
  · rintro ⟨ref, href⟩
    exact list.exists_of_ref href

/-- These are the resources of the items with names, one for each and in their order. -/
def Makes (items : List α) (found : List Resource) : Prop :=
  List.Forall₂ (fun x r => list.toResource x = .ok r ∧ Resource.IsOf kind (list.object x) r)
    (items.filter fun x => (list.object x).HasNames kind) found

/-- What is left of a page are the resources of its items with names. -/
theorem makes_filterMap (items : List α) :
    list.Makes items (items.filterMap fun x => (list.toResource x).toOption) := by
  induction items with
  | nil => exact .nil
  | cons x items ih =>
    rw [Makes]
    by_cases hnames : (list.object x).HasNames kind
    · obtain ⟨r, hr⟩ := (list.exists_toResource_iff x).2 hnames
      rw [List.filter_cons_of_pos (by simpa using hnames),
        List.filterMap_cons_some (by rw [hr]; rfl)]
      exact .cons ⟨hr, list.isOf_of_ok hr⟩ ih
    · have hnone : (list.toResource x).toOption = none := by
        cases hr : list.toResource x with
        | ok r => exact absurd ((list.exists_toResource_iff x).1 ⟨r, hr⟩) hnames
        | error e => rfl
      rw [List.filter_cons_of_neg (by simpa using hnames)]
      simp only [List.filterMap_cons, hnone]
      exact ih

/-- The resource of the whole kind is made of no item. -/
theorem Makes.ne_whole {items : List α} {found : List Resource} (h : list.Makes items found)
    {r : Resource} (hr : r ∈ found) (now : String) : r ≠ .whole now kind := by
  obtain ⟨x, -, -, hof⟩ := exists_left_of_mem h hr
  exact hof.ne_whole_kind now

end ObjectList

/-! ## Listings -/

namespace Catalog

/-- A catalogue lists the objects of one list. -/
inductive WalksOver : {kind : ResourceKind} → {α : Type} → Catalog → ObjectList kind α → Prop
  | inventory (i : Inventory) : WalksOver (.inventory i) (.inventory i)
  | roles : WalksOver .roles .roles
  | clusterRoles (cache : NamespaceCache) : WalksOver (.clusterRoles cache) .clusterRoles

variable {c : Catalog} {kind : ResourceKind} {α : Type} {list : ObjectList kind α}
  {server : Server} {size : Nat} {now : String} {g : Gateway} {place next : Option String}
  {items : List α} {calls : List ListCall}

theorem WalksOver.passesOn (hc : c.WalksOver list) :
    c.PassesOn kind list.name list.serve list.toResource := by
  cases hc with
  | inventory i => exact passesOn_inventory i
  | roles => exact passesOn_roles
  | clusterRoles cache => exact passesOn_clusterRoles cache

/-- A page costs a call of its own, for the page of the list at the place that its token leads to.
    It gives the resources of that page and the token of the place behind it. -/
theorem WalksOver.exists_pageAt (hc : c.WalksOver list) (hg : g.ReachesAt server size now)
    (hplace : placeOf place = place)
    (hserve : list.serve server ⟨size, place⟩ = .ok ⟨items.map .ok, next⟩) :
    ∃ g', pageAt (tokenAt place) ⟨c, g⟩ =
        .ok ⟨resourcesOf now kind list.toResource place.isNone items, tokenAt (placeOf next)⟩
          ⟨c, g'⟩ ∧
      g'.ReachesAt server size now ∧ g'.calls = g.calls ++ [.list list.name ⟨size, place⟩] := by
  have hpage : ComesTo (Resting server size now c) (pageAt (tokenAt place))
      (.ok ⟨resourcesOf now kind list.toResource place.isNone items, tokenAt (placeOf next)⟩) := by
    have hcomes : ComesTo (Resting server size now c) (pageAt (tokenAt place)) _ :=
      comesTo_pageAt hc.passesOn place
    rw [asking_eq list.name hplace hserve, readAs_map_ok] at hcomes
    rw [← next_placeOf]
    exact hcomes
  obtain ⟨⟨own, g'⟩, hrun, hown, hg'⟩ := hpage.eq_ok (s := ⟨c, g⟩) ⟨rfl, hg⟩
  obtain rfl : own = c := hown
  refine ⟨g', hrun, hg', ?_⟩
  -- The one call is that of the page of the list.
  rw [pageAt, hc.passesOn (decode_tokenAt place) rfl] at hrun
  obtain ⟨mid, hlisted, heq⟩ := onPart_ok hrun
  obtain ⟨page, mid', hread, hrest⟩ := bind_ok hlisted
  obtain ⟨_, _, hget, hmade⟩ := bind_ok hrest
  cases hget
  obtain ⟨-, rfl⟩ := EStateM.Result.ok.inj hmade
  obtain rfl : g' = mid' := congrArg Linked.gateway heq
  obtain ⟨-, -, -, -, hcalls⟩ := listPage_ok hread
  rw [hcalls, hg.reaches.pageSize_eq, hplace]

/-- From a place on, the pages of a listing are those of the list. -/
theorem WalksOver.exists_pages (hc : c.WalksOver list)
    (hread : ReadBy (list.serve server) size calls place items) (hplace : placeOf place = place)
    (hg : g.ReachesAt server size now) :
    ∃ g', Pages pageAt calls.length (tokenAt place) ⟨c, g⟩
        (resourcesOf now kind list.toResource place.isNone items) ⟨c, g'⟩ ∧
      g'.calls = g.calls ++ callsFor list.name calls := by
  -- By the calls; the token of each page but the last leads to the place of the next one.
  induction hread generalizing g with
  | last hserve hnext =>
    obtain ⟨g', hrun, -, hcalls⟩ := hc.exists_pageAt hg hplace hserve
    rw [hnext] at hrun
    exact ⟨g', .last hrun, hcalls⟩
  | @more calls place next behind items rest hserve hnext _ ih =>
    obtain ⟨mid, hrun, hmid, hcall⟩ := hc.exists_pageAt hg hplace hserve
    have hbehind : placeOf (some behind) = some behind := by rw [← hnext, placeOf_placeOf]
    obtain ⟨g', hpages, hcalls⟩ := ih hbehind hmid
    rw [hnext] at hrun
    rw [← resourcesOf_append now now]
    refine ⟨g', .more hrun hpages, ?_⟩
    rw [hcalls, hcall, List.append_assoc]
    rfl

/-- A listing of one list is complete, in order, and undisturbed by objects without names. Drained
    from the empty token over a list that is read by `calls`, one for each of its pages, it ends
    behind just these calls, with the resource of the whole kind once and in front, and then those
    of the objects that have names. Each page on its own gives the resources of its objects with
    names, behind that of the whole kind if it is the first one, and leads on to the place where
    the page of the list leads. -/
theorem listing_complete (hc : c.WalksOver list) {gateway : Gateway}
    (hread : ReadBy (list.serve gateway.server) gateway.pageSize calls none items)
    (hfailures : gateway.failures = [])
    (hopens : ∀ fault, gateway.connection.pending ≠ some (.error fault)) :
    (∃ found g', list.Makes items found ∧ (∀ r ∈ found, ∀ now, r ≠ .whole now kind) ∧
      Pages pageAt calls.length none ⟨c, gateway⟩ (.whole gateway.now kind :: found) ⟨c, g'⟩ ∧
      (∀ fuel, calls.length ≤ fuel → followFrom pageAt fuel [] none ⟨c, gateway⟩ =
        .ok (.whole gateway.now kind :: found) ⟨c, g'⟩) ∧
      g'.calls = gateway.calls ++ callsFor list.name calls) ∧
    (∀ x, (∃ r, list.toResource x = .ok r) ↔ (list.object x).HasNames kind) ∧
    ∀ place next page, placeOf place = place →
      list.serve gateway.server ⟨gateway.pageSize, place⟩ = .ok ⟨page.map .ok, next⟩ →
        ∃ found g', list.Makes page found ∧
          pageAt (tokenAt place) ⟨c, gateway⟩ =
            .ok ⟨(if place = none then [.whole gateway.now kind] else []) ++ found,
              tokenAt (placeOf next)⟩ ⟨c, g'⟩ ∧
          g'.calls = gateway.calls ++ [.list list.name ⟨gateway.pageSize, place⟩] := by
  have hg : gateway.ReachesAt gateway.server gateway.pageSize gateway.now :=
    ⟨⟨rfl, rfl, hfailures, hopens⟩, rfl⟩
  refine ⟨?_, list.exists_toResource_iff, ?_⟩
  · obtain ⟨g', hpages, hcalls⟩ := hc.exists_pages hread rfl hg
    have hmakes := list.makes_filterMap items
    exact ⟨_, g', hmakes, fun r hr now => hmakes.ne_whole list hr now, hpages,
      fun fuel hfuel => followFrom_of_pages hpages [] hfuel, hcalls⟩
  · intro place next page hplace hserve
    obtain ⟨g', hrun, -, hcalls⟩ := hc.exists_pageAt hg hplace hserve
    refine ⟨_, g', list.makes_filterMap page, ?_, hcalls⟩
    rw [hrun, resourcesOf]
    simp only [Option.isNone_iff_eq_none]

/-- Two pods with names, one without a namespace and one without a name. -/
def pods : List ClusterObject := [
  { kind := "Pod", name := "web", ns := some "team-a" },
  { kind := "Pod", name := "orphan" },
  { kind := "Pod", name := "", ns := some "team-a" },
  { kind := "Pod", name := "api", ns := some "team-b" }]

/-- A server that has two pods on its first page, none on the second, and two on the last. -/
def podServer : Server where
  roles _ := .ok {}
  clusterRoles _ := .ok {}
  roleBindings _ := .ok {}
  clusterRoleBindings _ := .ok {}
  objects _ call :=
    if call.resume = none then .ok { items := (pods.take 2).map .ok, next := some "middle" }
    else if call.resume = some "middle" then .ok { next := some "end" }
    else .ok { items := (pods.drop 2).map .ok }
  role _ _ := .error (.api (some 404) none)
  clusterRole _ := .error (.api (some 404) none)
  pageLimit := 3

/-- A gateway to that server. -/
def podGateway : Gateway where
  server := podServer
  pageSize := 2

/-- The pods are listed in three calls; the two broken ones are missing and nothing else. -/
theorem listing_complete_pods :
    ReadBy (podServer.objects .pod) 2 [⟨2, none⟩, ⟨2, some "middle"⟩, ⟨2, some "end"⟩] none
        pods ∧
      ∃ found g', found.map Resource.ref = [⟨.pod, "team-a/web"⟩, ⟨.pod, "team-b/api"⟩] ∧
        Pages pageAt 3 none ⟨.inventory .pod, podGateway⟩ (.whole "" .pod :: found)
          ⟨.inventory .pod, g'⟩ ∧
        g'.calls.length = 3 := by
  have hread : ReadBy (podServer.objects .pod) 2
      [⟨2, none⟩, ⟨2, some "middle"⟩, ⟨2, some "end"⟩] none pods := by
    have hend : ReadBy (podServer.objects .pod) 2 [⟨2, some "end"⟩] (some "end") (pods.drop 2) :=
      .last rfl rfl
    have hmiddle : podServer.objects .pod ⟨2, some "middle"⟩ =
        .ok ⟨([] : List ClusterObject).map .ok, some "end"⟩ := rfl
    have hfirst : podServer.objects .pod ⟨2, none⟩ =
        .ok ⟨(pods.take 2).map .ok, some "middle"⟩ := rfl
    exact .more hfirst rfl (.more hmiddle rfl hend)
  have hserved : ReadBy ((ObjectList.inventory .pod).serve podGateway.server) podGateway.pageSize
      [⟨2, none⟩, ⟨2, some "middle"⟩, ⟨2, some "end"⟩] none pods := hread
  have hopens : ∀ fault, podGateway.connection.pending ≠ some (.error fault) := fun _ => nofun
  obtain ⟨⟨found, g', hmakes, -, hpages, -, hcalls⟩, -, -⟩ :=
    listing_complete (.inventory .pod) hserved rfl hopens
  refine ⟨hread, found, g', ?_, hpages, by rw [hcalls]; rfl⟩
  have hnamed : (pods.filter fun o => o.HasNames .pod) = [
      { kind := "Pod", name := "web", ns := some "team-a" },
      { kind := "Pod", name := "api", ns := some "team-b" }] := rfl
  have hfound : List.Forall₂ (fun o r => Resource.ofInventory .pod o = .ok r ∧
      Resource.IsOf .pod o r) (pods.filter fun o => o.HasNames .pod) found := hmakes
  rw [hnamed] at hfound
  obtain _ | ⟨⟨hweb, -⟩, _ | ⟨⟨hapi, -⟩, _ | _⟩⟩ := hfound
  cases hweb
  cases hapi
  rfl

end Catalog
end ClusterAccess
