/-
  ClusterAccess.Proofs.PagesAlone

  What the pages of a listing are while the server stays as it is. A page asks for
  one list call, and what comes before it needs no waiting: the built-in names of
  principals are given first. So each page is known from the server, the token and
  what the catalogue has given, and a listing that has been begun can end in one
  way only.
-/
import ClusterAccess.Proofs.CatalogPages

namespace ClusterAccess

open ClusterAccess.Action

/-! ## What can go wrong -/

namespace Action

variable {σ τ α β : Type} {P : σ → Prop} {E : Fault → Prop} {act : Action σ α}

/-- From a state with `P` an action fails with a fault that has `E` if at all, and `P` holds again
of the state behind it. -/
def Risks (P : σ → Prop) (E : Fault → Prop) (act : Action σ α) : Prop :=
  ∀ s, P s → Lands P (act s) ∧ ∀ e s', act s = .error e s' → E e

theorem risks_pure (a : α) : Risks P E (pure a) :=
  fun _ hs => ⟨hs, fun _ _ hrun => nomatch hrun⟩

theorem risks_get : Risks P E get :=
  fun _ hs => ⟨hs, fun _ _ hrun => nomatch hrun⟩

theorem risks_ofExcept {ε : Type} {wrap : ε → Fault} (hwrap : ∀ e, E (wrap e)) (x : Except ε α) :
    Risks P E (ofExcept wrap x) := by
  cases x with
  | ok a => exact risks_pure a
  | error e =>
    refine fun s hs => ⟨hs, fun e' s' hrun => ?_⟩
    cases hrun
    exact hwrap e

theorem Risks.bind {f : α → Action σ β} (h : Risks P E act) (hf : ∀ a, Risks P E (f a)) :
    Risks P E (act >>= f) := by
  intro s hs
  obtain ⟨hlands, hfault⟩ := h s hs
  rw [bind_apply]
  cases hrun : act s with
  | ok a s' =>
    rw [hrun] at hlands
    exact hf a s' hlands
  | error e s' =>
    rw [hrun] at hlands
    refine ⟨hlands, fun e' s'' heq => ?_⟩
    cases heq
    exact hfault e s' hrun

theorem Risks.onPart {get : τ → σ} {put : σ → τ → τ} {P' : τ → Prop} (h : Risks P E act)
    (hget : ∀ t, P' t → P (get t)) (hput : ∀ s t, P s → P' t → P' (put s t)) :
    Risks P' E (act.onPart get put) := by
  intro t ht
  obtain ⟨hlands, hfault⟩ := h (get t) (hget t ht)
  refine ⟨lands_onPart hlands fun s hs => hput s t hs ht, fun e t' hrun => ?_⟩
  rw [Action.onPart] at hrun
  split at hrun
  next => cases hrun
  next e' s hact =>
    cases hrun
    exact hfault _ s hact

end Action

/-- A fault that is not one of a token. -/
def Fault.IsNoToken (e : Fault) : Prop :=
  ∀ f, e ≠ .token f

namespace Gateway

/-- If the connection cannot be configured, that is not because of a token. -/
def OpensWithoutToken (g : Gateway) : Prop :=
  ∀ e, g.connection.pending = some (.error e) → e.IsNoToken

theorem isNoToken_ofFailure (about : CallSubject) (failure : CallFailure) :
    (Fault.ofFailure about failure).IsNoToken := by
  intro f
  cases failure <;> exact nofun

theorem risks_connect : Risks OpensWithoutToken Fault.IsNoToken connect := by
  intro g hg
  unfold connect
  cases hpending : g.connection.pending with
  | none => exact ⟨hg, fun _ _ hrun => nomatch hrun⟩
  | some outcome =>
    cases outcome with
    | ok name => exact ⟨fun _ hnone => (nomatch hnone), fun _ _ hrun => nomatch hrun⟩
    | error e =>
      refine ⟨hg, fun e' g' hrun => ?_⟩
      cases hrun
      exact hg e hpending

theorem risks_callServer {α : Type} (call : Call) (serve : Server → Except CallFailure α) :
    Risks OpensWithoutToken Fault.IsNoToken (callServer call serve) := by
  intro g hg
  unfold callServer
  cases (note call g).1 with
  | some failure =>
    refine ⟨hg, fun e g' hrun => ?_⟩
    cases hrun
    exact isNoToken_ofFailure _ _
  | none =>
    cases serve g.server with
    | ok answer => exact ⟨hg, fun _ _ hrun => nomatch hrun⟩
    | error failure =>
      refine ⟨hg, fun e g' hrun => ?_⟩
      cases hrun
      exact isNoToken_ofFailure _ _

/-- A list call never fails because of a token. -/
theorem risks_listPage {α : Type} (name : ListName) (serve : Server → ListCall → Answer α)
    (place : Option String) (limit : Option Int) :
    Risks OpensWithoutToken Fault.IsNoToken (listPage name serve place limit) := by
  refine risks_get.bind fun g => ?_
  refine (risks_connect.bind fun _ => risks_callServer _ _).bind fun answer => ?_
  exact (risks_ofExcept (fun _ _ => nofun) _).bind fun items => risks_pure _

end Gateway

/-! ## A world that stays as it is -/

/-- A server, the size of the pages that it is asked for, and the date. -/
structure World where
  server : Server
  size : Nat
  now : String

/-- A gateway to this server. -/
structure Gateway.In (w : World) (g : Gateway) : Prop where
  server_eq : g.server = w.server
  pageSize_eq : g.pageSize = w.size
  now_eq : g.now = w.now

theorem Gateway.In.steady {w : World} {g g' : Gateway} (h : g.In w) (hg : Gateway.Steady g g') :
    g'.In w :=
  ⟨hg.server_eq.trans h.server_eq, hg.pageSize_eq.trans h.pageSize_eq, hg.now_eq.trans h.now_eq⟩

/-- A page of a list, if it is served and all its items can be read. -/
def World.page? (w : World) {α : Type} (serve : ListCall → Answer α) (place : Option String) :
    Option (Page α) :=
  match serve ⟨w.size, Gateway.placeOf place⟩ with
  | .ok answer =>
    (answer.items.mapM id).toOption.map fun items => ⟨items, Gateway.placeOf answer.next⟩
  | .error _ => none

theorem World.page?_of_listPage {w : World} {α : Type} {name : ListName}
    {serve : Server → ListCall → Answer α} {place : Option String} {g g' : Gateway} {page : Page α}
    (hg : g.In w) (h : Gateway.listPage name serve place none g = .ok page g') :
    w.page? (serve w.server) place = some page := by
  obtain ⟨items, next, hserve, rfl, -⟩ := Gateway.listPage_ok h
  rw [hg.server_eq, hg.pageSize_eq] at hserve
  simp only [World.page?, hserve, Gateway.mapM_ok]
  rfl

/-- A call that fails leaves a component as it is. -/
theorem own_eq_of_fetch_error {σ α : Type} {act : Fetch α} {l l' : Linked σ} {e : Fault}
    (h : Linked.fetch act l = .error e l') : l'.own = l.own := by
  rw [Linked.fetch_apply] at h
  split at h
  next => cases h
  next =>
    cases h
    rfl

/-! ## Principals -/

namespace PrincipalListing

/-- The names that have not been given, as resources, and the listing that has given them. -/
def given (listing : PrincipalListing) (names : List String) :
    List Resource × PrincipalListing :=
  (resources listing.principal (firstsAfter listing.seen names),
    { listing with seen := listing.seen ++ firstsAfter listing.seen names })

/-- The page behind the built-in names, which have been given. -/
def complete (principal : PrincipalKind) (t : PageToken) (given : List Resource) :
    Action (Linked PrincipalListing) (Page Resource) := do
  let page ← Linked.fetch (subjectsPage t.resume (t.phase.getD .roleBindings))
  let named ← give (namesAmong principal page.items)
  pure ⟨given ++ named,
    (nextToken (t.phase.getD .roleBindings) page.next).map PageToken.encode⟩

theorem keeps_complete (principal : PrincipalKind) (t : PageToken) (given : List Resource) :
    Keeps Stays (complete principal t given) := by
  refine Keeps.bind Stays.trans (Linked.keeps_fetch (isSteady_subjectsPage _ _)
    fun l g hg => ⟨hg, rfl⟩) fun page => ?_
  exact Keeps.bind Stays.trans (keeps_give _) fun named => keeps_pure Stays.refl _

theorem risks_complete (principal : PrincipalKind) (t : PageToken) (given : List Resource) :
    Risks (fun l : Linked PrincipalListing => l.gateway.OpensWithoutToken) Fault.IsNoToken
      (complete principal t given) := by
  have hpage : ∀ phase, Risks Gateway.OpensWithoutToken Fault.IsNoToken
      (subjectsPage t.resume phase) := by
    intro phase
    cases phase with
    | roleBindings => exact (Gateway.risks_listPage _ _ _ _).bind fun _ => risks_pure _
    | clusterRoleBindings => exact (Gateway.risks_listPage _ _ _ _).bind fun _ => risks_pure _
  have hfetch : Risks (fun l : Linked PrincipalListing => l.gateway.OpensWithoutToken)
      Fault.IsNoToken (Linked.fetch (subjectsPage t.resume (t.phase.getD .roleBindings))) :=
    (hpage _).onPart (fun _ hl => hl) fun _ _ hg _ => hg
  refine hfetch.bind fun page => ?_
  have hgive : Risks (fun l : Linked PrincipalListing => l.gateway.OpensWithoutToken)
      Fault.IsNoToken (give (namesAmong principal page.items)) :=
    fun l hl => ⟨hl, fun _ _ hrun => nomatch hrun⟩
  exact hgive.bind fun named => risks_pure _

/-- Names are given behind the call only, and then nothing can fail. -/
theorem own_eq_of_complete_error {principal : PrincipalKind} {t : PageToken}
    {given : List Resource} {l l' : Linked PrincipalListing} {e : Fault}
    (h : complete principal t given l = .error e l') : l'.own = l.own := by
  rw [complete, bind_apply] at h
  split at h
  next => cases h
  next e' mid hfetch =>
    cases h
    exact own_eq_of_fetch_error hfetch

/-- The built-in names need no server. -/
theorem list_eq_complete (t : PageToken) (listing : PrincipalListing) (g : Gateway) :
    list t ⟨listing, g⟩ =
      complete listing.principal t (listing.given listing.principal.builtIn).1
        ⟨(listing.given listing.principal.builtIn).2, g⟩ := rfl

/-- The subjects of one page of bindings, if it can be read. -/
def subjects? (w : World) (place : Option String) : BindingPhase → Option (Page Subject)
  | .roleBindings => (w.page? w.server.roleBindings place).map fun page =>
    ⟨page.items.flatMap RoleBinding.subjects, page.next⟩
  | .clusterRoleBindings => (w.page? w.server.clusterRoleBindings place).map fun page =>
    ⟨page.items.flatMap ClusterRoleBinding.subjects, page.next⟩

variable {w : World} {g g' : Gateway} {place : Option String} {phase : BindingPhase}

theorem subjects?_of_subjectsPage {page : Page Subject} (hg : g.In w)
    (h : subjectsPage place phase g = .ok page g') : subjects? w place phase = some page := by
  cases phase with
  | roleBindings =>
    obtain ⟨found, mid, hread, hrest⟩ := bind_ok h
    cases hrest
    have hpage : w.page? w.server.roleBindings place = some found :=
      World.page?_of_listPage hg hread
    rw [subjects?, hpage]
    rfl
  | clusterRoleBindings =>
    obtain ⟨found, mid, hread, hrest⟩ := bind_ok h
    cases hrest
    have hpage : w.page? w.server.clusterRoleBindings place = some found :=
      World.page?_of_listPage hg hread
    rw [subjects?, hpage]
    rfl

end PrincipalListing

/-! ## A page in two halves -/

namespace Catalog

/-- What a page gives before it asks the server, and the catalogue that has given it. -/
def prepare : Catalog → List Resource × Catalog
  | .principals listing =>
    ((listing.given listing.principal.builtIn).1,
      .principals (listing.given listing.principal.builtIn).2)
  | c => ([], c)

/-- The rest of a page, with what has been given for it. -/
def complete (t : PageToken) (given : List Resource) : Action (Linked Catalog) (Page Resource) := do
  let s ← get
  match s.own with
  | .inventory i => Linked.fetch (listInventory i t)
  | .roles => Linked.fetch (listRoles t)
  | .clusterRoles _ => Linked.fetch (listClusterRoles t)
  | .principals listing =>
    Linked.within listing .principals (PrincipalListing.complete listing.principal t given)

/-- A page is its two halves. -/
theorem list_eq_complete {text : String} {t : PageToken} (ht : PageToken.decode text = .ok t)
    (c : Catalog) (g : Gateway) : list text ⟨c, g⟩ = complete t c.prepare.1 ⟨c.prepare.2, g⟩ := by
  rw [list_apply ht]
  cases c with
  | principals listing =>
    simp only [Linked.within, onPart, PrincipalListing.list_eq_complete]
    rfl
  | _ => rfl

/-- However the rest of a page ends, it leaves the gateway steady and the kind as it is. -/
theorem keeps_complete (t : PageToken) (given : List Resource) :
    Keeps Stays (complete t given) := by
  refine keeps_get_bind fun l => ?_
  obtain ⟨own, gateway⟩ := l
  cases own with
  | inventory i => exact keeps_listPaged _ _ _ _ t _
  | roles => exact keeps_listPaged _ _ _ _ t _
  | clusterRoles cache => exact keeps_listPaged _ _ _ _ t _
  | principals listing =>
    exact lands_onPart (PrincipalListing.keeps_complete _ t given ⟨listing, gateway⟩) fun s hs =>
      ⟨hs.gateway, congrArg PrincipalKind.kind hs.principal_eq⟩

theorem risks_listPaged {α : Type} (kind : ResourceKind) (name : ListName)
    (serve : Server → ListCall → Answer α) (toResource : α → Except RefFault Resource)
    (t : PageToken) :
    Risks Gateway.OpensWithoutToken Fault.IsNoToken
      (listPaged kind (fun resume => Gateway.listPage name serve resume none) toResource t) :=
  (Gateway.risks_listPage _ _ _ _).bind fun _ => risks_get.bind fun _ => risks_pure _

/-- The rest of a page never fails because of a token. -/
theorem risks_complete (t : PageToken) (given : List Resource) :
    Risks (fun l : Linked Catalog => l.gateway.OpensWithoutToken) Fault.IsNoToken
      (complete t given) := by
  intro l hl
  obtain ⟨own, gateway⟩ := l
  have hfetch : ∀ {act : Fetch (Page Resource)},
      Risks Gateway.OpensWithoutToken Fault.IsNoToken act →
        Risks (fun l : Linked Catalog => l.gateway.OpensWithoutToken) Fault.IsNoToken
          (Linked.fetch act) :=
    fun h => h.onPart (fun _ hl => hl) fun _ _ hg _ => hg
  cases own with
  | inventory i => exact hfetch (risks_listPaged _ _ _ _ t) _ hl
  | roles => exact hfetch (risks_listPaged _ _ _ _ t) _ hl
  | clusterRoles cache => exact hfetch (risks_listPaged _ _ _ _ t) _ hl
  | principals listing =>
    have hwithin : Risks (fun l : Linked Catalog => l.gateway.OpensWithoutToken) Fault.IsNoToken
        (Linked.within listing principals
          (PrincipalListing.complete listing.principal t given)) :=
      (PrincipalListing.risks_complete _ t given).onPart (fun _ hl => hl) fun _ _ hs _ => hs
    exact hwithin _ hl

/-- A page that fails in its second half has changed nothing since the first. -/
theorem own_eq_of_complete_error {t : PageToken} {given : List Resource} {l l' : Linked Catalog}
    {e : Fault} (h : complete t given l = .error e l') : l'.own = l.own := by
  obtain ⟨own, gateway⟩ := l
  cases own with
  | inventory i => exact own_eq_of_fetch_error (show Linked.fetch _ _ = _ from h)
  | roles => exact own_eq_of_fetch_error (show Linked.fetch _ _ = _ from h)
  | clusterRoles cache => exact own_eq_of_fetch_error (show Linked.fetch _ _ = _ from h)
  | principals listing =>
    have hwithin : Linked.within listing principals _ _ = _ := h
    rw [Linked.within, onPart] at hwithin
    split at hwithin
    next => cases hwithin
    next e' s hlist =>
      cases hwithin
      exact congrArg principals (PrincipalListing.own_eq_of_complete_error hlist)

/-- The catalogue has given the names that need no server. -/
def IsPrepared : Catalog → Prop
  | .principals listing => ∀ name ∈ listing.principal.builtIn, name ∈ listing.seen
  | _ => True

/-- Who has given the built-in names does not give them again. -/
theorem IsPrepared.prepare_eq {c : Catalog} (h : c.IsPrepared) : c.prepare = ([], c) := by
  cases c with
  | principals listing =>
    have hnone : firstsAfter listing.seen listing.principal.builtIn = [] := by
      rw [List.eq_nil_iff_forall_not_mem]
      intro name hname
      obtain ⟨hbuiltIn, hnew⟩ := mem_firstsAfter.1 hname
      exact hnew (h name hbuiltIn)
    simp only [prepare, PrincipalListing.given, hnone, List.append_nil]
    rfl
  | _ => rfl

theorem isPrepared_prepare (c : Catalog) : c.prepare.2.IsPrepared := by
  cases c with
  | principals listing =>
    intro name hname
    by_cases hseen : name ∈ listing.seen
    · exact List.mem_append_left _ hseen
    · exact List.mem_append_right _ (mem_firstsAfter.2 ⟨hname, hseen⟩)
  | _ => trivial

/-! ## Pages by the server alone -/

/-- A page of the resources of a list, if it can be read. -/
def listed? (w : World) (kind : ResourceKind) {α : Type} (serve : ListCall → Answer α)
    (toResource : α → Except RefFault Resource) (t : PageToken) : Option (Page Resource) :=
  (w.page? serve t.resume).map fun page =>
    ⟨resourcesOf w.now kind toResource t.isFirstPage page.items, PageToken.next page.next⟩

/-- The rest of a page, if it can be read, and the catalogue behind it. -/
def page? (w : World) (t : PageToken) (given : List Resource) :
    Catalog → Option (Page Resource × Catalog)
  | .inventory i =>
    (listed? w i.kind (w.server.objects i) (Resource.ofInventory i) t).map (·, .inventory i)
  | .roles => (listed? w .role w.server.roles Resource.ofRole t).map (·, .roles)
  | .clusterRoles cache =>
    (listed? w .clusterRole w.server.clusterRoles Resource.ofClusterRole t).map
      (·, .clusterRoles cache)
  | .principals listing =>
    (PrincipalListing.subjects? w t.resume (t.phase.getD .roleBindings)).map fun page =>
      let named := listing.given (PrincipalListing.namesAmong listing.principal page.items)
      (⟨given ++ named.1, (PrincipalListing.nextToken (t.phase.getD .roleBindings) page.next).map
        PageToken.encode⟩, .principals named.2)

variable {w : World} {g g' : Gateway} {t : PageToken} {given : List Resource} {c : Catalog}
  {page : Page Resource} {l : Linked Catalog}

theorem listed?_of_listPaged {α : Type} {kind : ResourceKind} {name : ListName}
    {serve : Server → ListCall → Answer α} {toResource : α → Except RefFault Resource}
    (hg : g.In w)
    (h : listPaged kind (fun resume => Gateway.listPage name serve resume none) toResource t g =
      .ok page g') : listed? w kind (serve w.server) toResource t = some page := by
  obtain ⟨found, mid, hread, hrest⟩ := bind_ok h
  have hmid := hg.steady ((Gateway.isSteady_listPage name serve t.resume none).of_ok hread)
  obtain ⟨_, _, hget, hrest⟩ := bind_ok hrest
  cases hget
  cases hrest
  rw [listed?, World.page?_of_listPage hg hread, hmid.now_eq]
  rfl

/-- A page that was read is the one that the server and the catalogue make it. -/
theorem page?_of_complete (hg : g.In w) (h : complete t given ⟨c, g⟩ = .ok page l) :
    c.page? w t given = some (page, l.own) := by
  cases c with
  | inventory i =>
    obtain ⟨g', hread, rfl⟩ := onPart_ok (show Linked.fetch (listInventory i t) _ = _ from h)
    have hpage : listed? w i.kind (w.server.objects i) _ t = some page :=
      listed?_of_listPaged hg hread
    rw [page?, hpage]
    rfl
  | roles =>
    obtain ⟨g', hread, rfl⟩ := onPart_ok (show Linked.fetch (listRoles t) _ = _ from h)
    have hpage : listed? w .role w.server.roles _ t = some page := listed?_of_listPaged hg hread
    rw [page?, hpage]
    rfl
  | clusterRoles cache =>
    obtain ⟨g', hread, rfl⟩ := onPart_ok (show Linked.fetch (listClusterRoles t) _ = _ from h)
    have hpage : listed? w .clusterRole w.server.clusterRoles _ t = some page :=
      listed?_of_listPaged hg hread
    rw [page?, hpage]
    rfl
  | principals listing =>
    obtain ⟨s, hlist, rfl⟩ := onPart_ok (show Linked.within listing _ _ _ = _ from h)
    obtain ⟨found, mid, hfetch, hrest⟩ := bind_ok hlist
    obtain ⟨g', hread, rfl⟩ := onPart_ok hfetch
    cases hrest
    rw [page?, PrincipalListing.subjects?_of_subjectsPage hg hread]
    rfl

end Catalog
end ClusterAccess
