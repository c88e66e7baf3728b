/-
  ClusterAccess.Proofs.ResourceAnswers

  Single questions about a resource, beside a snapshot of the whole cluster. A
  snapshot asks each catalogue about the resources that it has listed; a single
  question names a resource by its id, and what the resource is called is guessed
  from the id. The grants are those of the snapshot. The entitlements are too, as
  long as the guess is right, and it is wrong for every name with a slash in it.
-/
import ClusterAccess.Http.Question
import ClusterAccess.Proofs.ListingCalls
import ClusterAccess.Proofs.ObjectListings
import Mathlib.Data.List.TakeWhile

namespace ClusterAccess

open ClusterAccess.Action

/-! ## Names in ids -/

/-- What stands behind the last separator holds none. -/
theorem Text.sep_notMem_afterLast (sep : Char) (cs : List Char) : sep ∉ afterLast sep cs := by
  intro hmem
  have hpasses := List.mem_takeWhile_imp (List.mem_reverse.1 hmem)
  simp at hpasses

namespace Resource

/-- The id of a resource is what it is called, or ends in that behind a slash. -/
structure EndsInName (r : Resource) : Prop where
  name : r.displayName ≠ ""
  object : r.ref.object = r.displayName ∨ ∃ ns, r.ref.object = ns ++ "/" ++ r.displayName

variable {r : Resource} {kind : ResourceKind}

theorem EndsInName.object_ne_empty (h : r.EndsInName) : r.ref.object ≠ "" := by
  rcases h.object with hbare | ⟨ns, hplaced⟩
  · rw [hbare]
    exact h.name
  · intro hempty
    have hlength := congrArg String.length (hplaced.symm.trans hempty)
    simp at hlength

/-- What is behind the last slash of an id is what the resource is called, unless a slash stands in
    that as well. -/
theorem EndsInName.shortName_eq_iff (h : r.EndsInName) :
    ResourceRef.shortName r.ref.object = r.displayName ↔ '/' ∉ r.displayName.toList := by
  constructor
  · intro hshort
    rw [← hshort, ResourceRef.shortName, String.toList_ofList]
    exact Text.sep_notMem_afterLast _ _
  · intro hslash
    -- Either the name is the whole id, or the last slash is the one behind the namespace.
    have hback : Text.afterLast '/' r.ref.object.toList = r.displayName.toList := by
      rcases h.object with hbare | ⟨ns, hplaced⟩
      · rw [hbare, Text.afterLast_eq_self hslash]
      · have hsplit : r.ref.object.toList = ns.toList ++ '/' :: r.displayName.toList := by
          rw [hplaced]
          simp
        rw [hsplit, Text.afterLast_append_cons hslash]
    rw [ResourceRef.shortName, hback, String.ofList_toList]

theorem IsOf.endsInName {o : ClusterObject} (hof : IsOf kind o r) : r.EndsInName := by
  obtain ⟨hname, hobject⟩ := object_of_refOf hof.ref
  rw [← hof.displayName] at hname hobject
  exact ⟨hname, hobject⟩

end Resource

/-- Of what a list gives, everything but the resource of the whole kind ends in its name. -/
theorem ObjectList.eq_whole_or_endsInName {kind : ResourceKind} {α : Type}
    (list : ObjectList kind α) {now : String} {items : List α} {r : Resource}
    (hr : r ∈ Catalog.resourcesOf now kind list.toResource true items) :
    r = .whole now kind ∨ r.EndsInName := by
  rcases List.mem_cons.1 hr with hwhole | hmade
  · exact .inl hwhole
  · obtain ⟨x, -, -, hof⟩ := exists_left_of_mem (list.makes_filterMap items) hmade
    exact .inr hof.endsInName

theorem PrincipalListing.endsInName_of_mem {principal : PrincipalKind} {bindings : Contents}
    {r : Resource} (hr : r ∈ resources principal
      (everyone principal bindings.roleBindings bindings.clusterRoleBindings)) :
    r.EndsInName := by
  obtain ⟨name, hname, rfl⟩ := List.mem_map.1 hr
  refine ⟨?_, .inl rfl⟩
  rcases mem_everyone_iff.1 hname with hbuiltIn | ⟨b, -, subject, -, hresolve⟩
  · have hnamed : ∀ name ∈ principal.builtIn, name ≠ "" := by cases principal <;> decide
    exact hnamed name hbuiltIn
  · exact (Subject.resolve_eq_ok_iff.1 hresolve).2.2

namespace Holdings

variable {h : Holdings} {now : String} {settings : Settings} {s : Snapshot} {c : Catalog}
  {r r' : Resource}

theorem eq_whole_or_endsInName {found : List Resource} (hfound : h.resources now c = .ok found)
    (hr : r ∈ found) : r = .whole now c.kind ∨ r.EndsInName := by
  cases c with
  | inventory i =>
    obtain ⟨objects, -, rfl⟩ := exists_of_map_ok hfound
    exact (ObjectList.inventory i).eq_whole_or_endsInName hr
  | roles =>
    obtain ⟨objects, -, rfl⟩ := exists_of_map_ok hfound
    exact ObjectList.roles.eq_whole_or_endsInName hr
  | clusterRoles cache =>
    obtain ⟨objects, -, rfl⟩ := exists_of_map_ok hfound
    exact ObjectList.clusterRoles.eq_whole_or_endsInName hr
  | principals listing =>
    obtain ⟨bindings, -, hpure⟩ := exists_of_bind_ok hfound
    cases hpure
    exact .inr (PrincipalListing.endsInName_of_mem hr)

/-! ## Details of a snapshot -/

/-- The details of one part: those of each resource that its catalogue has listed. -/
theorem exists_details_part {part : Snapshot} (hpart : h.part now c = .ok part) :
    ∃ details, part.entitlements = details.flatMap (·.1) ∧ part.grants = details.flatMap (·.2) ∧
      List.Forall₂ (fun r d => (∃ found, h.resources now c = .ok found ∧ r ∈ found) ∧
        h.details c r = .ok d) part.resources details := by
  obtain ⟨hfound, details, hdetails, hentitlements, hgrants⟩ := part_ok hpart
  have hlisted : ∀ r ∈ part.resources, ∃ found, h.resources now c = .ok found ∧ r ∈ found :=
    fun r hr => ⟨_, hfound, hr⟩
  exact ⟨details, hentitlements, hgrants, (List.forall₂_and_left _ _).2 ⟨hlisted, hdetails⟩⟩

/-- A snapshot has the details of its resources, one after the other: the entitlements and the
    grants that the catalogue which listed the resource has of it. -/
theorem exists_details_join {catalogs : List Catalog} {parts : List Snapshot}
    (hparts : List.Forall₂ (fun c part => h.part now c = .ok part) catalogs parts) :
    ∃ details, (Snapshot.join parts).entitlements = details.flatMap (·.1) ∧
      (Snapshot.join parts).grants = details.flatMap (·.2) ∧
      List.Forall₂ (fun r d => ∃ c ∈ catalogs,
        (∃ found, h.resources now c = .ok found ∧ r ∈ found) ∧ h.details c r = .ok d)
        (Snapshot.join parts).resources details := by
  -- By the catalogues; the details of one stand in front of those of the catalogues behind it.
  induction hparts with
  | nil => exact ⟨[], rfl, rfl, .nil⟩
  | @cons c part catalogs parts hpart _ ih =>
    obtain ⟨first, hentitlements, hgrants, hfirst⟩ := exists_details_part hpart
    obtain ⟨behind, hentitlements', hgrants', hbehind⟩ := ih
    refine ⟨first ++ behind, ?_, ?_, List.rel_append (hfirst.imp ?_) (hbehind.imp ?_)⟩
    · rw [List.flatMap_append, ← hentitlements, ← hentitlements']
      rfl
    · rw [List.flatMap_append, ← hgrants, ← hgrants']
      rfl
    · exact fun r d hd => ⟨c, List.mem_cons_self, hd⟩
    · rintro r d ⟨c', hc', hd⟩
      exact ⟨c', List.mem_cons_of_mem c hc', hd⟩

theorem exists_details (hs : h.snapshot now settings = .ok s) :
    ∃ details, s.entitlements = details.flatMap (·.1) ∧ s.grants = details.flatMap (·.2) ∧
      List.Forall₂ (fun r d => ∃ c ∈ Auditor.freshCatalogs settings,
        (∃ found, h.resources now c = .ok found ∧ r ∈ found) ∧ h.details c r = .ok d)
        s.resources details := by
  obtain ⟨parts, hparts, rfl⟩ := exists_parts hs
  exact exists_details_join hparts

theorem resource_of_mem_entitlements {offered : List Entitlement} {e : Entitlement}
    (hoffered : h.entitlements r c = .ok offered) (he : e ∈ offered) : e.resource = r.ref := by
  cases c with
  | inventory i =>
    cases hoffered
    rw [Entitlement.ofInventory] at he
    split at he
    · rw [List.mem_singleton.1 he]
      rfl
    · obtain ⟨verb, -, rfl⟩ := List.mem_map.1 he
      rfl
  | roles =>
    cases hoffered
    simp only [Entitlement.ofRole, List.mem_cons, List.not_mem_nil, or_false] at he
    rcases he with rfl | rfl | rfl <;> rfl
  | clusterRoles cache =>
    obtain ⟨names, -, hpure⟩ := exists_of_bind_ok hoffered
    cases hpure
    rcases List.mem_cons.1 he with rfl | hwithin
    · rfl
    · obtain ⟨ns, -, rfl⟩ := List.mem_map.1 hwithin
      rfl
  | principals listing =>
    cases hoffered
    rw [List.mem_singleton.1 he]
    rfl

/-- A role has memberships of its own, and is what holds its permissions. -/
theorem concerns_of_mem_grants {known : List Grant} {g : Grant}
    (hknown : h.grants r c = .ok known) (hg : g ∈ known) : g.target = r.ref ∨ g.holder = r.ref := by
  cases c with
  | roles =>
    rw [grants, grantsOfRole] at hknown
    split at hknown
    next =>
      cases hknown
      cases hg
    next =>
      obtain ⟨⟨ns, name⟩, -, hrest⟩ := exists_of_bind_ok hknown
      obtain ⟨role, -, hrest⟩ := exists_of_bind_ok hrest
      obtain ⟨bound, -, hpure⟩ := exists_of_bind_ok hrest
      cases hpure
      rcases List.mem_append.1 hg with hmember | hpermission
      · obtain ⟨b, -, -, -, htarget, -⟩ := Grant.mem_memberships_iff.1 hmember
        exact .inl htarget
      · exact .inr (Grant.mem_permissions_iff.1 hpermission).1
  | clusterRoles cache =>
    rw [grants, grantsOfClusterRole] at hknown
    split at hknown
    next =>
      cases hknown
      cases hg
    next =>
      obtain ⟨⟨confined, clusterWide⟩, -, hrest⟩ := exists_of_bind_ok hknown
      obtain ⟨role, -, hpure⟩ := exists_of_bind_ok hrest
      cases hpure
      rcases List.mem_append.1 hg with hmember | hpermission
      · rcases List.mem_append.1 hmember with hmember | hmember
        all_goals
          obtain ⟨b, -, -, -, htarget, -⟩ := Grant.mem_memberships_iff.1 hmember
          exact .inl htarget
      · exact .inr (Grant.mem_permissions_iff.1 hpermission).1
  | _ =>
    cases hknown
    cases hg

/-! ## What entitlements are called -/

/-- Entitlements go by the reference of a resource and what it is called; nothing else of it is
    seen. -/
theorem entitlements_congr (href : r'.ref = r.ref) (hname : r'.displayName = r.displayName)
    (c : Catalog) : h.entitlements r' c = h.entitlements r c := by
  obtain ⟨ref, name, _⟩ := r
  obtain ⟨ref', name', _⟩ := r'
  obtain rfl : ref' = ref := href
  obtain rfl : name' = name := hname
  cases c <;> rfl

theorem grants_congr (href : r'.ref = r.ref) (c : Catalog) : h.grants r' c = h.grants r c := by
  cases c with
  | roles => exact congrArg h.grantsOfRole href
  | clusterRoles cache => exact congrArg h.grantsOfClusterRole href
  | _ => rfl

/-- Whether a resource has entitlements does not depend on the resource. -/
theorem exists_entitlements_of_ok {offered : List Entitlement}
    (hoffered : h.entitlements r c = .ok offered) (r' : Resource) :
    ∃ offered', h.entitlements r' c = .ok offered' := by
  cases c with
  | clusterRoles cache =>
    obtain ⟨names, hnames, -⟩ := exists_of_bind_ok hoffered
    rw [entitlements, hnames]
    exact ⟨_, rfl⟩
  | _ => exact ⟨_, rfl⟩

/-- There is an entitlement, and the first one is called like the resource, between words that are
    fixed for its catalogue. -/
theorem exists_wording (h : Holdings) (c : Catalog) : ∃ before behind : String,
    ∀ r offered, h.entitlements r c = .ok offered → ∃ e rest, offered = e :: rest ∧
      e.displayName = before ++ r.displayName ++ behind := by
  cases c with
  | inventory i =>
    -- A service account can be acted as; on all other objects the first verb is the same.
    cases i with
    | serviceAccount =>
      refine ⟨"Impersonate ", "", ?_⟩
      rintro r _ ⟨⟩
      exact ⟨_, _, rfl, String.append_empty.symm⟩
    | _ =>
      refine ⟨"get ", "", ?_⟩
      rintro r _ ⟨⟩
      exact ⟨_, _, rfl, String.append_empty.symm⟩
  | roles =>
    refine ⟨"", " Role Member", ?_⟩
    rintro r _ ⟨⟩
    exact ⟨_, _, rfl, by rw [String.empty_append]; rfl⟩
  | clusterRoles cache =>
    refine ⟨"", " Cluster Role Member", fun r offered hoffered => ?_⟩
    obtain ⟨names, -, hpure⟩ := exists_of_bind_ok hoffered
    cases hpure
    exact ⟨_, _, rfl, by rw [String.empty_append]; rfl⟩
  | principals listing =>
    refine ⟨"Impersonate ", "", ?_⟩
    rintro r _ ⟨⟩
    exact ⟨_, _, rfl, String.append_empty.symm⟩

end Holdings

/-! ## Pages -/

theorem Entitlement.displayName_of_toJson {e e' : Entitlement} (h : e.toJson = e'.toJson) :
    e.displayName = e'.displayName := by
  simp only [toJson, Json.object.injEq, List.cons.injEq, Prod.mk.injEq, Json.text.injEq] at h
  exact h.2.2.2.1.2

namespace Http.Question

theorem map_toJson_of_onePage {α : Type} {toJson : α → Json} {items items' : List α}
    (h : onePage toJson items = onePage toJson items') :
    items.map toJson = items'.map toJson := by
  rw [onePage, onePage, pageJson, pageJson] at h
  injection h with hfields
  injection hfields with hitems
  injection hitems with _ hitems
  injection hitems

/-- A resource that is called otherwise has other entitlements on its page, and one that is called
    the same has the same. -/
theorem onePage_entitlements_iff {h : Holdings} {c : Catalog} {r r' : Resource}
    {offered offered' : List Entitlement} (href : r'.ref = r.ref)
    (hoffered : h.entitlements r c = .ok offered) (hoffered' : h.entitlements r' c = .ok offered') :
    onePage Entitlement.toJson offered' = onePage Entitlement.toJson offered ↔
      r'.displayName = r.displayName := by
  constructor
  · intro hpage
    obtain ⟨before, behind, hwording⟩ := h.exists_wording c
    obtain ⟨e, rest, rfl, hname⟩ := hwording r offered hoffered
    obtain ⟨e', rest', rfl, hname'⟩ := hwording r' offered' hoffered'
    have hfirst : e'.displayName = e.displayName :=
      Entitlement.displayName_of_toJson (List.cons.inj (map_toJson_of_onePage hpage)).1
    rw [hname, hname', String.append_left_inj, String.append_right_inj] at hfirst
    exact hfirst
  · intro hname
    rw [Holdings.entitlements_congr href hname, hoffered] at hoffered'
    rw [Except.ok.inj hoffered']

end Http.Question

/-! ## Auditors over a cluster -/

namespace Auditor

variable {h : Holdings} {settings : Settings} {gateway : Gateway} {a : Auditor} {c : Catalog}
  {catalogs : List Catalog}

/-- An auditor of a cluster that stays as it is: its bindings are those that are held, as far as it
remembers them, and the catalogues for single questions stand for new ones. -/
structure Answering (h : Holdings) (settings : Settings) (gateway : Gateway) (a : Auditor) :
    Prop where
  settings_eq : a.settings = settings
  standing : Standing h gateway.server settings.pageSize gateway.now a
  catalogs : List.Forall₂ (Catalog.StandsFor h) (freshCatalogs settings) a.catalogs

theorem answering_ofGateway (hfailures : gateway.failures = [])
    (hopens : ∀ fault, gateway.connection.pending ≠ some (.error fault)) :
    Answering h settings gateway (ofGateway settings gateway) where
  settings_eq := rfl
  standing := ⟨fun hloaded => absurd hloaded Bool.false_ne_true, ⟨rfl, rfl, hfailures, hopens⟩, rfl⟩
  catalogs := List.forall₂_same.2 fun _ hc => (isNew_of_mem_freshCatalogs hc).standsFor

/-- Time passes, and nothing changes for the answers. -/
theorem Answering.wait (ha : Answering h settings gateway a) (seconds : Nat) :
    Answering h settings gateway { a with gateway := a.gateway.undergo (.wait seconds) } where
  settings_eq := ha.settings_eq
  standing := by
    obtain ⟨⟨hserver, hsize, hfailures, hopens⟩, hnow⟩ := ha.standing.gateway
    exact ⟨ha.standing.bindings, ⟨hserver, hsize, hfailures, hopens⟩, hnow⟩
  catalogs := ha.catalogs

/-- Where the kinds are all different, the catalogue for a kind is found in its place. -/
theorem exists_catalogOf? (hcatalogs : List.Forall₂ (Catalog.StandsFor h) catalogs a.catalogs)
    (hnodup : (catalogs.map Catalog.kind).Nodup) (hc : c ∈ catalogs) :
    ∃ c', catalogOf? a.catalogs c.kind.id = some c' ∧ c.StandsFor h c' := by
  -- By the catalogues; one that stands in front of the one for the kind is of another kind.
  generalize a.catalogs = standing at hcatalogs
  induction hcatalogs with
  | nil => cases hc
  | @cons first first' catalogs standing hfirst _ ih =>
    rw [List.map_cons, List.nodup_cons] at hnodup
    rcases List.mem_cons.1 hc with rfl | hc
    · refine ⟨first', ?_, hfirst⟩
      rw [catalogOf?, List.find?_cons_of_pos (by simp [hfirst.kind_eq])]
    · have hother : first'.kind.id ≠ c.kind.id := by
        intro heq
        rw [hfirst.kind_eq] at heq
        exact hnodup.1 (ResourceKind.id_injective heq ▸ List.mem_map_of_mem hc)
      obtain ⟨c', hfind, hstands⟩ := ih hnodup.2 hc
      refine ⟨c', ?_, hstands⟩
      rw [catalogOf?, List.find?_cons_of_neg (by simpa using hother)]
      exact hfind

/-- A catalogue that is put back stands for the one that it was taken for. -/
theorem Answering.catalogs_putCatalog (ha : Answering h settings gateway a)
    (hc : c ∈ freshCatalogs settings) {c' : Catalog} (hstands : c.StandsFor h c') :
    List.Forall₂ (Catalog.StandsFor h) (freshCatalogs settings) (putCatalog c' a).catalogs := by
  have hlisted : List.Forall₂ (fun c₀ old => c₀ ∈ freshCatalogs settings ∧ c₀.StandsFor h old)
      (freshCatalogs settings) a.catalogs :=
    (List.forall₂_and_left _ _).2 ⟨fun _ hc₀ => hc₀, ha.catalogs⟩
  refine List.forall₂_map_right_iff.2 (hlisted.imp ?_)
  rintro c₀ old ⟨hc₀, hold⟩
  split
  next hsame =>
    -- Of each kind there is one catalogue only.
    rw [hold.kind_eq, hstands.kind_eq] at hsame
    rw [List.inj_on_of_nodup_map (nodup_kind_freshCatalogs settings) hc₀ hc hsame]
    exact hstands
  next => exact hold

section

variable (hshows : gateway.server.Shows h settings.pageSize)
include hshows

/-- Asked about a resource, the catalogue for single questions has the entitlements that are
    held. -/
theorem comesTo_entitlements (hc : c ∈ freshCatalogs settings) (r : Resource) :
    ComesTo (Answering h settings gateway) (entitlements c.kind.id r) (h.entitlements r c) := by
  intro a ha
  obtain ⟨c', hfind, hstands⟩ :=
    exists_catalogOf? ha.catalogs (nodup_kind_freshCatalogs settings) hc
  rw [entitlements, bind_eq_ok (catalog_apply hfind), onCatalog]
  refine EndsAs.onPart (Catalog.comesTo_entitlements hshows r _ ⟨hstands, ha.standing.gateway⟩) ?_
  rintro l ⟨hown, hl⟩
  exact ⟨ha.settings_eq, ⟨ha.standing.bindings, hl⟩, ha.catalogs_putCatalog hc hown⟩

theorem comesTo_grants (hc : c ∈ freshCatalogs settings) (r : Resource) :
    ComesTo (Answering h settings gateway) (grants c.kind.id r) (h.grants r c) := by
  intro a ha
  obtain ⟨c', hfind, hstands⟩ :=
    exists_catalogOf? ha.catalogs (nodup_kind_freshCatalogs settings) hc
  rw [grants, bind_eq_ok (catalog_apply hfind), onBindings]
  refine EndsAs.onPart
    (Catalog.comesTo_grants hshows hstands r _ ⟨ha.standing.bindings, ha.standing.gateway⟩) ?_
  rintro l ⟨hown, hl⟩
  exact ⟨ha.settings_eq, ⟨hown, hl⟩, ha.catalogs⟩

/-- A snapshot leaves the catalogues for single questions alone. -/
theorem comesTo_snapshot :
    ComesTo (Answering h settings gateway) snapshot (h.snapshot gateway.now settings) := by
  have htour : ∀ c ∈ freshCatalogs settings, ComesTo (Answering h settings gateway)
      (tour c Tour.snapshot) (h.part gateway.now c) := by
    intro c hc a ha
    refine (endsAs_tour hshows (isNew_of_mem_freshCatalogs hc) ha.standing).mono ?_
    rintro a' ⟨hstanding, hsettings, hcatalogs⟩
    exact ⟨hsettings.trans ha.settings_eq, hstanding, hcatalogs ▸ ha.catalogs⟩
  refine comesTo_get_bind fun a ha => ?_
  rw [ha.settings_eq]
  exact (ComesTo.mapM htour).bind fun parts _ => comesTo_pure _

end

end Auditor

/-! ## Questions about a resource -/

/-- The resource that an id of a kind names, as far as its id tells. -/
def Resource.named (kind : ResourceKind) (id : String) : Resource :=
  { ref := ⟨kind, id⟩, displayName := ResourceRef.shortName id }

namespace Http.Question

open Auditor (Answering)

/-- From every auditor that answers, single questions about a resource give its grants, and they
give its entitlements if and only if there is no slash in what the resource is called. -/
structure AgreesWith (h : Holdings) (settings : Settings) (gateway : Gateway) (r : Resource)
    (d : List Entitlement × List Grant) : Prop where
  grants : ComesTo (Answering h settings gateway) (grants r.ref.kind.id r.ref.object).answer
    (.ok (onePage Grant.toJson d.2))
  entitlements : ∃ answer, ComesTo (Answering h settings gateway)
    (entitlements r.ref.kind.id r.ref.object).answer (.ok answer) ∧
      (answer = onePage Entitlement.toJson d.1 ↔ '/' ∉ r.displayName.toList)

variable {h : Holdings} {settings : Settings} {gateway : Gateway} {c : Catalog} {id : String}

theorem comesTo_resourceOf (hc : c ∈ Auditor.freshCatalogs settings) (hid : id ≠ "") :
    ComesTo (Answering h settings gateway) (resourceOf c.kind.id id) (.ok (.named c.kind id)) := by
  intro a ha
  obtain ⟨c', hfind, hstands⟩ :=
    Auditor.exists_catalogOf? ha.catalogs (Auditor.nodup_kind_freshCatalogs settings) hc
  rw [resourceOf, bind_eq_ok (Auditor.catalog_apply hfind), ResourceRef.make, if_neg hid,
    hstands.kind_eq]
  exact ⟨rfl, ha⟩

section

variable (hshows : gateway.server.Shows h settings.pageSize)
include hshows

theorem comesTo_answer_entitlements (hc : c ∈ Auditor.freshCatalogs settings) (hid : id ≠ "") :
    ComesTo (Answering h settings gateway) (entitlements c.kind.id id).answer
      ((h.entitlements (.named c.kind id) c).map (onePage Entitlement.toJson)) :=
  (comesTo_resourceOf hc hid).bind fun _ _ =>
    (Auditor.comesTo_entitlements hshows hc _).map (onePage Entitlement.toJson)

theorem comesTo_answer_grants (hc : c ∈ Auditor.freshCatalogs settings) (hid : id ≠ "") :
    ComesTo (Answering h settings gateway) (grants c.kind.id id).answer
      ((h.grants (.named c.kind id) c).map (onePage Grant.toJson)) :=
  (comesTo_resourceOf hc hid).bind fun _ _ =>
    (Auditor.comesTo_grants hshows hc _).map (onePage Grant.toJson)

/-- Single questions about a listed resource agree with the details that a snapshot has of it. -/
theorem agreesWith_of_details (hc : c ∈ Auditor.freshCatalogs settings) {found : List Resource}
    (hfound : h.resources gateway.now c = .ok found) {r : Resource} (hr : r ∈ found)
    {d : List Entitlement × List Grant} (hd : h.details c r = .ok d)
    (hwhole : r ≠ .whole gateway.now r.ref.kind) : AgreesWith h settings gateway r d := by
  have hkind : r.ref.kind = c.kind := Holdings.kind_of_resources_ok hfound r hr
  have hends : r.EndsInName := by
    rw [hkind] at hwhole
    exact (Holdings.eq_whole_or_endsInName hfound hr).resolve_left hwhole
  have href : (Resource.named c.kind r.ref.object).ref = r.ref := by rw [← hkind]; rfl
  obtain ⟨hentitlements, hgrants⟩ := Holdings.details_ok hd
  constructor
  case grants =>
    -- Grants go by the reference, which the id tells.
    rw [hkind]
    have hanswer := comesTo_answer_grants hshows hc hends.object_ne_empty
    have hsame : h.grants (.named c.kind r.ref.object) c = .ok d.2 := by
      rw [← hgrants]
      exact Holdings.grants_congr href c
    rwa [hsame] at hanswer
  case entitlements =>
    -- Entitlements go by the name as well, and that is a guess.
    rw [hkind]
    have hanswer := comesTo_answer_entitlements hshows hc hends.object_ne_empty
    obtain ⟨offered, hoffered⟩ :=
      Holdings.exists_entitlements_of_ok hentitlements (.named c.kind r.ref.object)
    rw [hoffered] at hanswer
    refine ⟨_, hanswer, ?_⟩
    rw [← hends.shortName_eq_iff]
    exact onePage_entitlements_iff href hentitlements hoffered

end

end Http.Question

namespace Auditor

open Http

/-- A new auditor that has taken a snapshot has taken one of what is held, and is as good as before
    for single questions. -/
theorem answering_of_snapshot_ok {h : Holdings} {settings : Settings} {gateway : Gateway}
    {s : Snapshot} {after : Auditor} (hshows : gateway.server.Shows h settings.pageSize)
    (hfailures : gateway.failures = [])
    (hrun : snapshot (ofGateway settings gateway) = .ok s after) :
    Answering h settings gateway (ofGateway settings gateway) ∧
      h.snapshot gateway.now settings = .ok s ∧ Answering h settings gateway after := by
  have hnew : Answering h settings gateway (ofGateway settings gateway) :=
    answering_ofGateway hfailures (opens_of_snapshot_ok hshows.roles.pageLimit_pos hrun)
  have hends := comesTo_snapshot hshows _ hnew
  rw [hrun] at hends
  exact ⟨hnew, hends⟩

/-- Single questions about the resources of a snapshot, exactly. The cluster stays as it is; the
auditor may be new, may have taken snapshots, may have answered such questions, and any time may
have passed. A snapshot has entitlements and grants resource by resource, and for each resource but
those of whole kinds, the question for the grants gives just these; the question for the
entitlements has an answer as well, which gives just these if and only if there is no slash in what
the resource is called. -/
theorem answers_as_snapshot {h : Holdings} {settings : Settings} {gateway : Gateway} {s : Snapshot}
    {after : Auditor} (hshows : gateway.server.Shows h settings.pageSize)
    (hfailures : gateway.failures = [])
    (hrun : snapshot (ofGateway settings gateway) = .ok s after) :
    Answering h settings gateway (ofGateway settings gateway) ∧
      Answering h settings gateway after ∧
      (∀ a seconds, Answering h settings gateway a →
        Answering h settings gateway { a with gateway := a.gateway.undergo (.wait seconds) }) ∧
      ComesTo (Answering h settings gateway) snapshot (.ok s) ∧
      ∃ details, s.entitlements = details.flatMap (·.1) ∧ s.grants = details.flatMap (·.2) ∧
        List.Forall₂ (fun r d =>
          (∀ e ∈ d.1, e.resource = r.ref) ∧ (∀ g ∈ d.2, g.target = r.ref ∨ g.holder = r.ref) ∧
          (∃ c ∈ freshCatalogs settings, c.kind = r.ref.kind ∧ h.details c r = .ok d) ∧
          (r ≠ .whole gateway.now r.ref.kind → Question.AgreesWith h settings gateway r d))
          s.resources details := by
  obtain ⟨hnew, hs, hafter⟩ := answering_of_snapshot_ok hshows hfailures hrun
  have hcomes : ComesTo (Answering h settings gateway) snapshot (.ok s) :=
    hs ▸ comesTo_snapshot hshows
  refine ⟨hnew, hafter, fun a seconds ha => ha.wait seconds, hcomes, ?_⟩
  obtain ⟨details, hentitlements, hgrants, hdetails⟩ := Holdings.exists_details hs
  refine ⟨details, hentitlements, hgrants, hdetails.imp ?_⟩
  rintro r d ⟨c, hc, ⟨found, hfound, hr⟩, hd⟩
  obtain ⟨hoffered, hknown⟩ := Holdings.details_ok hd
  exact ⟨fun e he => Holdings.resource_of_mem_entitlements hoffered he,
    fun g hg => Holdings.concerns_of_mem_grants hknown hg,
    ⟨c, hc, (Holdings.kind_of_resources_ok hfound r hr).symm, hd⟩,
    Question.agreesWith_of_details hshows hc hfound hr hd⟩

/-- In the office, single questions about a role of a namespace give what the snapshot has. -/
theorem answers_as_snapshot_office :
    office.server.Shows office 1 ∧
      ∃ s after, snapshot (ofGateway { pageSize := 1 } office.gateway) = .ok s after ∧
        ∃ (d : List Entitlement × List Grant) (a a' : Auditor),
          d.1 ⊆ s.entitlements ∧ d.2 ⊆ s.grants ∧
          (Question.grants "role" "team-a/reader").answer after =
            .ok (Question.onePage Grant.toJson d.2) a ∧
          (Question.entitlements "role" "team-a/reader").answer after =
            .ok (Question.onePage Entitlement.toJson d.1) a' := by
  have hshows : office.server.Shows office 1 := office.shows_server (by decide)
  have hlisted : ((office.snapshot "" { pageSize := 1 }).toOption.any fun s =>
      s.resources.any fun r => r.ref = ⟨.role, "team-a/reader"⟩ && r.displayName = "reader") =
        true := by
    decide +kernel
  obtain ⟨s, after, hrun, hlisted⟩ := exists_snapshot (by decide) hlisted
  simp only [List.any_eq_true, Bool.and_eq_true, decide_eq_true_eq] at hlisted
  obtain ⟨r, hr, href, hname⟩ := hlisted
  obtain ⟨-, hafter, -, -, details, hentitlements, hgrants, hdetails⟩ :=
    answers_as_snapshot hshows rfl hrun
  obtain ⟨d, hd, -, -, -, hagrees⟩ := exists_right_of_mem hdetails hr
  have hwhole : r ≠ .whole office.gateway.now r.ref.kind := by
    intro heq
    have hobject : r.ref.object = wildcard := by rw [heq]; rfl
    rw [href] at hobject
    revert hobject
    decide
  obtain ⟨hanswerGrants, answer, hanswer, hsame⟩ := hagrees hwhole
  rw [href] at hanswerGrants hanswer
  rw [hsame.2 (by rw [hname]; decide)] at hanswer
  obtain ⟨a, hrunGrants, -⟩ := hanswerGrants.eq_ok hafter
  obtain ⟨a', hrunEntitlements, -⟩ := hanswer.eq_ok hafter
  refine ⟨hshows, s, after, hrun, d, a, a', ?_, ?_, hrunGrants, hrunEntitlements⟩
  · rw [hentitlements]
    exact fun e he => List.mem_flatMap.2 ⟨d, hd, he⟩
  · rw [hgrants]
    exact fun g hg => List.mem_flatMap.2 ⟨d, hd, hg⟩

/-- A cluster with a binding that names a user by the directory that the user comes from. -/
def directory : Contents where
  clusterRoles := [{ object := { kind := "ClusterRole", name := "view" }, rules := [] }]
  clusterRoleBindings :=
    [⟨"viewers", ⟨"ClusterRole", "view", ""⟩, [⟨"User", "corp/alice", "", ""⟩]⟩]

/-- There, the entitlements on the user are not those of the snapshot: they are worded with what
stands behind the slash. -/
theorem not_answers_as_snapshot_directory :
    ∃ s after, snapshot (ofGateway { pageSize := 1 } directory.holdings.gateway) = .ok s after ∧
      ∃ r ∈ s.resources, r.ref = ⟨.user, "corp/alice"⟩ ∧
        ∃ answer a, (Question.entitlements "kube_user" "corp/alice").answer after = .ok answer a ∧
          answer ≠ Question.onePage Entitlement.toJson
            (s.entitlements.filter fun e => e.resource = r.ref) := by
  have hshows : directory.holdings.gateway.server.Shows directory.holdings 1 :=
    directory.holdings.shows_server (by decide)
  have hlisted : ((directory.holdings.snapshot "" { pageSize := 1 }).toOption.any fun s =>
      (s.resources.any fun r => r.ref = ⟨.user, "corp/alice"⟩) &&
        s.entitlements.filter (fun e => e.resource = ⟨.user, "corp/alice"⟩) =
          [.impersonate "user" (.ofPrincipal .user "corp/alice")]) = true := by
    decide +kernel
  obtain ⟨s, after, hrun, hlisted⟩ := exists_snapshot (by decide) hlisted
  simp only [Bool.and_eq_true, List.any_eq_true, decide_eq_true_eq] at hlisted
  obtain ⟨⟨r, hr, href⟩, hoffered⟩ := hlisted
  obtain ⟨-, -, hafter⟩ := answering_of_snapshot_ok hshows rfl hrun
  -- The user as it has been listed, and as its id tells.
  have hlong : directory.holdings.entitlements (.ofPrincipal .user "corp/alice")
      (.principals { principal := .user }) =
        .ok [.impersonate "user" (.ofPrincipal .user "corp/alice")] := rfl
  have hshort : directory.holdings.entitlements (.named .user "corp/alice")
      (.principals { principal := .user }) =
        .ok [.impersonate "user" (.named .user "corp/alice")] := rfl
  have husers : Catalog.principals { principal := .user } ∈ freshCatalogs { pageSize := 1 } :=
    principals_mem_freshCatalogs _ .user
  have hkind : (Catalog.principals { principal := .user }).kind = .user := rfl
  have hid : "corp/alice" ≠ "" := by decide
  have hanswer := Question.comesTo_answer_entitlements hshows husers hid
  rw [hkind, hshort] at hanswer
  obtain ⟨a, hrunAnswer, -⟩ := hanswer.eq_ok hafter
  refine ⟨s, after, hrun, r, hr, href, _, a, hrunAnswer, ?_⟩
  rw [href, hoffered]
  intro hsame
  have hsameRef : (Resource.named .user "corp/alice").ref =
      (Resource.ofPrincipal .user "corp/alice").ref := rfl
  have hname := (Question.onePage_entitlements_iff hsameRef hlong hshort).1 hsame
  revert hname
  decide

end Auditor
end ClusterAccess
