/-
  ClusterAccess.Proofs.ListingsAlone

  Listings in a world that stays as it is. From a token and a catalogue on a
  listing can give one list of resources only, all of the catalogue's kind, and no
  principal twice. That is what a tour finds, and what a snapshot has of a kind.
-/
import ClusterAccess.Proofs.ListingCalls
import ClusterAccess.Proofs.PagesAlone
import ClusterAccess.Proofs.TourAgreement
import Mathlib.Data.List.Forall2

namespace ClusterAccess

open ClusterAccess.Action

/-! ## Kinds of resources -/

namespace Resource

variable {kind : ResourceKind} {r : Resource}

theorem kind_of_refOf {o : ClusterObject} {ref : ResourceRef} (h : refOf kind o = .ok ref) :
    ref.kind = kind := by
  unfold refOf ResourceRef.makeNamespaced ResourceRef.make at h
  repeat' split at h
  all_goals first | cases h; rfl | cases h

/-- An object is a resource of the kind that it is listed as. -/
theorem kind_of_ofObject {description : Option String} {o : ClusterObject}
    (h : ofObject kind description o = .ok r) : r.ref.kind = kind := by
  simp only [ofObject] at h
  cases href : refOf kind o with
  | error e =>
    rw [href] at h
    cases h
  | ok ref =>
    rw [href] at h
    cases h
    exact kind_of_refOf href

theorem kind_of_ofClusterRole {role : ClusterRole} (h : ofClusterRole role = .ok r) :
    r.ref.kind = .clusterRole := by
  simp only [ofClusterRole] at h
  cases hobject : ofObject .clusterRole none role.object with
  | error e =>
    rw [hobject] at h
    cases h
  | ok object =>
    have hkind := kind_of_ofObject hobject
    rw [hobject] at h
    cases h
    exact hkind

end Resource

namespace Catalog

variable {w : World} {t t' : PageToken} {given : List Resource} {c c' : Catalog}
  {page : Page Resource} {items : List Resource} {text : String}

/-! ## Turning pages -/

/-- A whole page, if it can be read, and the catalogue behind it. -/
def turn? (w : World) (t : PageToken) (c : Catalog) : Option (Page Resource × Catalog) :=
  c.prepare.2.page? w t c.prepare.1

/-- A page goes by the phase and the place that its token leads to. -/
theorem turn?_congr (hphase : t.phase = t'.phase) (hresume : t.resume = t'.resume) :
    c.turn? w t = c.turn? w t' := by
  have hfirst : t.isFirstPage = t'.isFirstPage := by
    rw [PageToken.isFirstPage, PageToken.isFirstPage, hphase, hresume]
  cases c <;> simp only [turn?, prepare, page?, listed?, hfirst, hphase, hresume]

/-- A page that was read is the one that the server and the catalogue make it. -/
theorem turn?_of_list {g : Gateway} {l : Linked Catalog} (hg : g.In w)
    (ht : PageToken.decode text = .ok t) (h : list text ⟨c, g⟩ = .ok page l) :
    c.turn? w t = some (page, l.own) := by
  rw [list_eq_complete ht] at h
  exact page?_of_complete hg h

theorem listed?_eq_some {kind : ResourceKind} {α : Type} {serve : ListCall → Answer α}
    {toResource : α → Except RefFault Resource}
    (h : listed? w kind serve toResource t = some page) :
    ∃ isFirst found next, page = ⟨resourcesOf w.now kind toResource isFirst found,
      PageToken.next next⟩ := by
  obtain ⟨found, -, rfl⟩ := Option.map_eq_some_iff.1 h
  exact ⟨_, _, _, rfl⟩

/-- The next page of a page has a token that can be read, if there is one. -/
theorem hasReadableNext_of_turn? (h : c.turn? w t = some (page, c')) : HasReadableNext page := by
  cases c with
  | principals listing =>
    obtain ⟨found, -, heq⟩ := Option.map_eq_some_iff.1 h
    cases heq
    exact hasReadableNext_of_map _
  | _ =>
    obtain ⟨found, hlisted, heq⟩ := Option.map_eq_some_iff.1 h
    cases heq
    obtain ⟨isFirst, read, next, rfl⟩ := listed?_eq_some hlisted
    exact hasReadableNext_next _

/-! ## What a page leaves -/

/-- The built-in names have been given behind every page. -/
theorem isPrepared_of_turn? (h : c.turn? w t = some (page, c')) : c'.IsPrepared := by
  have hprepared := isPrepared_prepare c
  cases c with
  | principals listing =>
    obtain ⟨found, -, heq⟩ := Option.map_eq_some_iff.1 h
    cases heq
    exact fun name hname => List.mem_append_left _ (hprepared name hname)
  | _ =>
    obtain ⟨found, -, heq⟩ := Option.map_eq_some_iff.1 h
    cases heq
    trivial

theorem kind_of_turn? (h : c.turn? w t = some (page, c')) : c'.kind = c.kind := by
  cases c <;>
  · obtain ⟨found, -, heq⟩ := Option.map_eq_some_iff.1 h
    cases heq
    rfl

theorem kind_of_mem_resourcesOf {now : String} {kind : ResourceKind} {α : Type}
    {toResource : α → Except RefFault Resource} {isFirst : Bool} {objects : List α}
    (hkind : ∀ o r, toResource o = .ok r → r.ref.kind = kind) :
    ∀ r ∈ resourcesOf now kind toResource isFirst objects, r.ref.kind = kind := by
  intro r hr
  rw [resourcesOf, List.mem_append, List.mem_filterMap] at hr
  rcases hr with hwhole | ⟨o, -, ho⟩
  · split at hwhole
    · rw [List.mem_singleton.1 hwhole]
      rfl
    · cases hwhole
  · cases hresource : toResource o with
    | error e =>
      rw [hresource] at ho
      cases ho
    | ok r' =>
      rw [hresource] at ho
      cases ho
      exact hkind o r hresource

/-- The names on a page of principals: each stands there once, and has not been given before. -/
theorem names_of_turn? {listing : PrincipalListing}
    (h : (principals listing).turn? w t = some (page, c')) :
    ∃ names, page.items = PrincipalListing.resources listing.principal names ∧ names.Nodup ∧
      (∀ name ∈ names, name ∉ listing.seen) ∧
      c' = .principals { listing with seen := listing.seen ++ names } := by
  obtain ⟨found, -, heq⟩ := Option.map_eq_some_iff.1 h
  cases heq
  -- The built-in names that are new, and then the names on the page that are new behind them.
  refine ⟨_ ++ _, (List.map_append ..).symm, ?_, ?_, ?_⟩
  · rw [List.nodup_append]
    refine ⟨nodup_firstsAfter _ _, nodup_firstsAfter _ _, ?_⟩
    rintro name hbuiltIn _ hnamed rfl
    exact (mem_firstsAfter.1 hnamed).2 (List.mem_append_right _ hbuiltIn)
  · refine List.forall_mem_append.2 ⟨fun name hname => (mem_firstsAfter.1 hname).2, ?_⟩
    exact fun name hname hseen => (mem_firstsAfter.1 hname).2 (List.mem_append_left _ hseen)
  · rw [← List.append_assoc]
    rfl

/-- A page lists resources of the catalogue's kind. -/
theorem kind_of_mem_turn? (h : c.turn? w t = some (page, c')) :
    ∀ r ∈ page.items, r.ref.kind = c.kind := by
  cases c with
  | principals listing =>
    obtain ⟨names, hitems, -⟩ := names_of_turn? h
    intro r hr
    rw [hitems] at hr
    obtain ⟨name, -, rfl⟩ := List.mem_map.1 hr
    rfl
  | inventory i =>
    obtain ⟨found, hlisted, heq⟩ := Option.map_eq_some_iff.1 h
    cases heq
    obtain ⟨isFirst, read, next, rfl⟩ := listed?_eq_some hlisted
    exact kind_of_mem_resourcesOf fun o r => Resource.kind_of_ofObject
  | roles =>
    obtain ⟨found, hlisted, heq⟩ := Option.map_eq_some_iff.1 h
    cases heq
    obtain ⟨isFirst, read, next, rfl⟩ := listed?_eq_some hlisted
    exact kind_of_mem_resourcesOf fun o r => Resource.kind_of_ofObject
  | clusterRoles cache =>
    obtain ⟨found, hlisted, heq⟩ := Option.map_eq_some_iff.1 h
    cases heq
    obtain ⟨isFirst, read, next, rfl⟩ := listed?_eq_some hlisted
    exact kind_of_mem_resourcesOf fun o r => Resource.kind_of_ofClusterRole

/-! ## To the end of a listing -/

/-- From a token and a catalogue on, a listing gives these resources and ends. -/
inductive Rest (w : World) : PageToken → Catalog → List Resource → Prop
  | last {t : PageToken} {c c' : Catalog} {items : List Resource} :
    c.turn? w t = some (⟨items, none⟩, c') → Rest w t c items
  | more {t t' : PageToken} {c c' : Catalog} {next : String} {items rest : List Resource} :
    c.turn? w t = some (⟨items, some next⟩, c') → PageToken.decode next = .ok t' →
      Rest w t' c' rest → Rest w t c (items ++ rest)

variable {rest rest' : List Resource}

/-- A listing can end in one way only. -/
theorem Rest.unique (h : Rest w t c rest) (h' : Rest w t c rest') : rest = rest' := by
  -- By the pages: both listings have the same page here, so they go on from the same place.
  induction h generalizing rest' with
  | last hturn =>
    cases h' with
    | last hturn' =>
      rw [hturn] at hturn'
      cases hturn'
      rfl
    | more hturn' =>
      rw [hturn] at hturn'
      cases hturn'
  | more hturn hnext _ ih =>
    cases h' with
    | last hturn' =>
      rw [hturn] at hturn'
      cases hturn'
    | more hturn' hnext' hrest' =>
      rw [hturn] at hturn'
      cases hturn'
      rw [hnext] at hnext'
      cases hnext'
      rw [ih hrest']

/-- Which listing a token names makes no difference to what is listed. -/
theorem Rest.congr (h : Rest w t c rest) (hphase : t.phase = t'.phase)
    (hresume : t.resume = t'.resume) : Rest w t' c rest := by
  cases h with
  | last hturn =>
    rw [turn?_congr hphase hresume] at hturn
    exact .last hturn
  | more hturn hnext hrest =>
    rw [turn?_congr hphase hresume] at hturn
    exact .more hturn hnext hrest

/-- A listing lists resources of the catalogue's kind. -/
theorem Rest.kind_eq (h : Rest w t c rest) : ∀ r ∈ rest, r.ref.kind = c.kind := by
  induction h with
  | last hturn => exact kind_of_mem_turn? hturn
  | more hturn _ _ ih =>
    rw [kind_of_turn? hturn] at ih
    exact List.forall_mem_append.2 ⟨kind_of_mem_turn? hturn, ih⟩

/-- The names of a listing of principals: each stands there once, and has not been given before. -/
theorem Rest.names (h : Rest w t c rest) {listing : PrincipalListing}
    (hown : c = .principals listing) :
    ∃ names, rest = PrincipalListing.resources listing.principal names ∧ names.Nodup ∧
      ∀ name ∈ names, name ∉ listing.seen := by
  -- By the pages: the names on this page have been seen when those behind it are given.
  induction h generalizing listing with
  | last hturn =>
    subst hown
    obtain ⟨names, hitems, hnodup, hnew, -⟩ := names_of_turn? hturn
    exact ⟨names, hitems, hnodup, hnew⟩
  | more hturn _ _ ih =>
    subst hown
    obtain ⟨names, hitems, hnodup, hnew, rfl⟩ := names_of_turn? hturn
    obtain ⟨later, rfl, hnodup', hnew'⟩ := ih rfl
    refine ⟨names ++ later, ?_, ?_, ?_⟩
    · simp only at hitems
      rw [hitems]
      exact (List.map_append ..).symm
    · rw [List.nodup_append]
      refine ⟨hnodup, hnodup', ?_⟩
      rintro name hname _ hlater rfl
      exact hnew' name hlater (List.mem_append_right _ hname)
    · refine List.forall_mem_append.2 ⟨hnew, fun name hname hseen => ?_⟩
      exact hnew' name hname (List.mem_append_left _ hseen)

/-- A listing of principals lists nobody twice. -/
theorem Rest.nodup {listing : PrincipalListing} (h : Rest w t (.principals listing) rest) :
    rest.Nodup := by
  obtain ⟨names, rfl, hnodup, -⟩ := h.names rfl
  rw [PrincipalListing.resources, List.Nodup, List.pairwise_map]
  refine hnodup.imp fun hne heq => hne ?_
  exact congrArg Resource.displayName heq

end Catalog

/-! ## Tours and snapshots -/

namespace Tour

open Catalog (Rest)

variable {w : World} {tour tour' : Tour} {found : List Resource}

theorem rest_of_followFrom (fuel : Nat) {collected : List Resource} {place : Option String}
    {t : PageToken} (hg : tour.gateway.In w) (ht : PageToken.decode (place.getD "") = .ok t)
    (h : Gateway.followFrom pageAt fuel collected place tour = .ok found tour') :
    ∃ rest, found = collected ++ rest ∧ Rest w t tour.catalog rest := by
  -- By the fuel: a page leaves the world as it is, so the rest is followed in the same one.
  induction fuel generalizing collected place t tour with
  | zero => cases h
  | succ fuel ih =>
    rw [Gateway.followFrom] at h
    obtain ⟨page, mid, hpage, hrest⟩ := bind_ok h
    obtain ⟨l, hlist, rfl⟩ := onPart_ok (show onCatalog (Catalog.list _) tour = _ from hpage)
    have hturn := Catalog.turn?_of_list hg ht hlist
    have hmid := hg.steady ((Catalog.keeps_list _).of_ok hlist).gateway
    obtain ⟨items, next⟩ := page
    cases next with
    | none =>
      cases hrest
      exact ⟨items, rfl, .last hturn⟩
    | some next =>
      obtain ⟨t', ht'⟩ := Catalog.hasReadableNext_of_turn? hturn next rfl
      have hbehind : PageToken.decode ((some next).getD "") = .ok t' := ht'
      obtain ⟨rest, rfl, hbehind⟩ := ih hmid hbehind hrest
      exact ⟨items ++ rest, List.append_assoc .., .more hturn ht' hbehind⟩

/-- A tour finds what a listing of its catalogue gives. -/
theorem rest_of_resources (hg : tour.gateway.In w) (h : resources tour = .ok found tour') :
    Rest w {} tour.catalog found := by
  rw [resources, bind_apply, get_apply] at h
  have hfirst : PageToken.decode ((none : Option String).getD "") = .ok {} := rfl
  obtain ⟨rest, rfl, hrest⟩ := rest_of_followFrom _ hg hfirst h
  exact hrest

theorem rest_of_snapshot {s : Snapshot} (hg : tour.gateway.In w)
    (h : snapshot tour = .ok s tour') : Rest w {} tour.catalog s.resources := by
  obtain ⟨found, mid, hfound, hrest⟩ := bind_ok h
  obtain ⟨details, mid', -, hrest⟩ := bind_ok hrest
  obtain ⟨_, _, -, hrest⟩ := bind_ok hrest
  cases hrest
  exact rest_of_resources hg hfound

end Tour

namespace Auditor

open Catalog (Rest)

variable {w : World} {settings : Settings} {s : Snapshot} {c : Catalog}

/-- The parts of a snapshot, catalogue by catalogue. -/
theorem gives_parts (w : World) (catalogs : List Catalog) :
    Gives (fun a => a.gateway.In w) (catalogs.mapM fun c => tour c Tour.snapshot)
      (List.Forall₂ (fun c part => Rest w {} c part.resources) catalogs) := by
  induction catalogs with
  | nil => exact gives_pure .nil
  | cons c catalogs ih =>
    rw [List.mapM_cons]
    have hfirst : Gives (fun a : Auditor => a.gateway.In w) (tour c Tour.snapshot)
        fun part => Rest w {} c part.resources := by
      intro a part a' ha hrun
      obtain ⟨t, ht, rfl⟩ := onPart_ok hrun
      exact ⟨ha.steady (Tour.keeps_snapshot.of_ok ht).bindings.gateway,
        Tour.rest_of_snapshot ha ht⟩
    exact hfirst.bind fun part hpart => ih.bind fun parts hparts => gives_pure (.cons hpart hparts)

section Parts

variable {P : Catalog → List Resource → Prop} {catalogs : List Catalog} {parts : List Snapshot}

/-- The parts of a snapshot have resources of the kinds of the catalogues. -/
theorem kind_of_mem_parts (hkind : ∀ c found, P c found → ∀ r ∈ found, r.ref.kind = c.kind)
    (h : List.Forall₂ (fun c part => P c part.resources) catalogs parts) :
    ∀ r ∈ (Snapshot.join parts).resources, r.ref.kind ∈ catalogs.map Catalog.kind := by
  induction h with
  | nil => exact fun r hr => absurd hr List.not_mem_nil
  | cons hpart _ ih =>
    intro r hr
    simp only [Snapshot.join, List.flatMap_cons, List.mem_append] at hr
    rcases hr with hr | hr
    · rw [hkind _ _ hpart r hr]
      exact List.mem_cons_self
    · exact List.mem_cons_of_mem _ (ih r hr)

/-- Of the parts of a snapshot, only that of a catalogue has resources of its kind. -/
theorem resourcesOf_join (hkind : ∀ c found, P c found → ∀ r ∈ found, r.ref.kind = c.kind)
    (h : List.Forall₂ (fun c part => P c part.resources) catalogs parts)
    (hnodup : (catalogs.map Catalog.kind).Nodup) (hc : c ∈ catalogs) :
    P c ((Snapshot.join parts).resourcesOf c.kind) := by
  induction h with
  | nil => cases hc
  | @cons c' part catalogs parts hpart hparts ih =>
    rw [List.map_cons, List.nodup_cons] at hnodup
    have hsplit : ∀ kind, (Snapshot.join (part :: parts)).resourcesOf kind =
        part.resources.filter (fun r => r.ref.kind = kind) ++
          (Snapshot.join parts).resourcesOf kind := by
      intro kind
      simp only [Snapshot.resourcesOf, Snapshot.join, List.flatMap_cons, List.filter_append]
    rw [hsplit]
    -- Either this part has all resources of the kind, or the later ones have.
    rcases List.mem_cons.1 hc with rfl | hc
    · have hall : part.resources.filter (fun r => r.ref.kind = c.kind) = part.resources := by
        rw [List.filter_eq_self]
        exact fun r hr => decide_eq_true (hkind _ _ hpart r hr)
      have hnone : (Snapshot.join parts).resourcesOf c.kind = [] := by
        rw [Snapshot.resourcesOf, List.filter_eq_nil_iff]
        intro r hr
        rw [decide_eq_true_iff]
        exact fun heq => hnodup.1 (heq ▸ kind_of_mem_parts hkind hparts r hr)
      rw [hall, hnone, List.append_nil]
      exact hpart
    · have hnone : part.resources.filter (fun r => r.ref.kind = c.kind) = [] := by
        rw [List.filter_eq_nil_iff]
        intro r hr
        rw [decide_eq_true_iff, hkind _ _ hpart r hr]
        exact fun heq => hnodup.1 (heq ▸ List.mem_map_of_mem hc)
      rw [hnone, List.nil_append]
      exact ih hnodup.2 hc

end Parts

/-- The kinds of new catalogues are all different. -/
theorem nodup_kind_freshCatalogs (settings : Settings) :
    ((freshCatalogs settings).map Catalog.kind).Nodup := by
  have hkinds : ∀ withPods, ((Catalog.fresh withPods 0).map Catalog.kind).Nodup := by decide
  exact hkinds settings.syncPods

/-- What a snapshot has of a kind is what a listing of a new catalogue gives. -/
theorem rest_of_snapshot {a b : Auditor} (ha : a.gateway.In w) (hsettings : a.settings = settings)
    (h : snapshot a = .ok s b) (hc : c ∈ freshCatalogs settings) :
    Rest w {} c (s.resourcesOf c.kind) := by
  obtain ⟨_, _, hget, h⟩ := bind_ok h
  cases hget
  subst hsettings
  obtain ⟨parts, mid, hparts, hrest⟩ := bind_ok h
  cases hrest
  exact resourcesOf_join (fun _ _ hrest => hrest.kind_eq) (gives_parts w _ _ _ _ ha hparts).2
    (nodup_kind_freshCatalogs _) hc

end Auditor

end ClusterAccess
