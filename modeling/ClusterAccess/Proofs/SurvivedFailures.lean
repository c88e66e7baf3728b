/-
  ClusterAccess.Proofs.SurvivedFailures

  Snapshots that were taken while failures were to come. Nothing is tried twice and
  no failure is passed over, so a snapshot that was taken has met none: with no
  failures to come, the same snapshot is taken.
-/
import ClusterAccess.Auditor
import ClusterAccess.Proofs.Agreement

namespace ClusterAccess

namespace Action

variable {σ τ σ' τ' α β : Type} {R : σ → τ → Prop} {x : Action σ α} {y : Action τ α}

/-- Where the first action succeeds, so does the second one from a related state: with the same
answer, and related states behind it. -/
def Carries (R : σ → τ → Prop) (x : Action σ α) (y : Action τ α) : Prop :=
  ∀ s t a s', R s t → x s = .ok a s' → ∃ t', y t = .ok a t' ∧ R s' t'

theorem carries_pure (a : α) : Carries R (pure a) (pure a) := by
  rintro s t _ _ hst ⟨⟩
  exact ⟨t, rfl, hst⟩

theorem carries_throw (e : Fault) : Carries R (throw e : Action σ α) y := by
  rintro s t _ _ hst ⟨⟩

theorem carries_ofExcept {ε : Type} (wrap : ε → Fault) (x : Except ε α) :
    Carries R (ofExcept wrap x) (ofExcept wrap x) := by
  cases x with
  | ok a => exact carries_pure a
  | error e => exact carries_throw (wrap e)

theorem carries_modify {f : σ → σ} {f' : τ → τ} (h : ∀ s t, R s t → R (f s) (f' t)) :
    Carries R (modify f) (modify f') := by
  rintro s t _ _ hst ⟨⟩
  exact ⟨f' t, rfl, h s t hst⟩

theorem Carries.bind {f : α → Action σ β} {f' : α → Action τ β} (h : Carries R x y)
    (hf : ∀ a, Carries R (f a) (f' a)) : Carries R (x >>= f) (y >>= f') := by
  intro s t b s' hst hrun
  obtain ⟨a, mid, hx, hrest⟩ := bind_ok hrun
  obtain ⟨mid', hy, hmid⟩ := h s t a mid hst hx
  obtain ⟨t', hrest', hst'⟩ := hf a mid mid' b s' hmid hrest
  exact ⟨t', by rw [bind_eq_ok hy, hrest'], hst'⟩

/-- Actions that go by the states they start from. -/
theorem carries_get_bind {f : σ → Action σ α} {f' : τ → Action τ α}
    (h : ∀ s t, R s t → Carries R (f s) (f' t)) : Carries R (get >>= f) (get >>= f') :=
  fun s t a s' hst hrun => h s t hst s t a s' hst hrun

theorem Carries.onPart {get : σ' → σ} {put : σ → σ' → σ'} {get' : τ' → τ} {put' : τ → τ' → τ'}
    {R' : σ' → τ' → Prop} (h : Carries R x y) (hget : ∀ s t, R' s t → R (get s) (get' t))
    (hput : ∀ s t s' t', R s t → R' s' t' → R' (put s s') (put' t t')) :
    Carries R' (x.onPart get put) (y.onPart get' put') := by
  intro s t a s' hst hrun
  obtain ⟨part, hx, rfl⟩ := onPart_ok hrun
  obtain ⟨part', hy, hparts⟩ := h _ _ a part (hget s t hst) hx
  exact ⟨put' part' t, onPart_eq_ok hy, hput part part' s t hparts hst⟩

theorem Carries.mapM {f : α → Action σ β} {f' : α → Action τ β} (h : ∀ a, Carries R (f a) (f' a))
    (xs : List α) : Carries R (xs.mapM f) (xs.mapM f') := by
  induction xs with
  | nil => exact carries_pure []
  | cons a xs ih =>
    rw [List.mapM_cons, List.mapM_cons]
    exact (h a).bind fun b => ih.bind fun bs => carries_pure (b :: bs)

end Action

open ClusterAccess.Action

/-! ## Calls -/

namespace Gateway

variable {σ τ α : Type} {pages : Nat}

/-- Where fewer pages are enough to come to the end of a list, so are more. -/
theorem carries_followFrom {R : σ → τ → Prop} {fetch : Option String → Action σ (Page α)}
    {fetch' : Option String → Action τ (Page α)}
    (h : ∀ place, Carries R (fetch place) (fetch' place)) {fuel fuel' : Nat} (hfuel : fuel ≤ fuel')
    (collected : List α) (place : Option String) :
    Carries R (followFrom fetch fuel collected place)
      (followFrom fetch' fuel' collected place) := by
  induction fuel generalizing fuel' collected place with
  | zero => exact carries_throw _
  | succ fuel ih =>
    obtain ⟨fuel', rfl⟩ : ∃ k, fuel' = k + 1 := ⟨fuel' - 1, by omega⟩
    refine (h place).bind fun page => ?_
    cases page.next with
    | none => exact carries_pure _
    | some behind => exact ih (by omega) _ _

/-- The gateway with no failures to come, over a server that promises so many pages. -/
def spare (pages : Nat) (g : Gateway) : Gateway :=
  { g with server := { g.server with pageLimit := pages }, failures := [] }

/-- The second gateway is the first one with no failures to come, and its server promises as many
pages as the first one might have asked for. -/
structure IsSpared (pages : Nat) (g g' : Gateway) : Prop where
  eq : g' = g.spare pages
  patience_le : g.patience ≤ pages

namespace IsSpared

variable {g g' : Gateway}

theorem clock_eq (h : IsSpared pages g g') : g'.clock = g.clock := by rw [h.eq, spare]

theorem now_eq (h : IsSpared pages g g') : g'.now = g.now := by rw [h.eq, spare]

theorem patience_le_patience (h : IsSpared pages g g') : g.patience ≤ g'.patience := by
  rw [h.eq]
  exact h.patience_le

end IsSpared

theorem foldl_after_le {m n : Nat} (h : m ≤ n) (failures : List ArmedFailure) :
    failures.foldl (fun n f => n + (f.after + 1)) m ≤
      failures.foldl (fun n f => n + (f.after + 1)) n := by
  induction failures generalizing m n with
  | nil => exact h
  | cons f failures ih => exact ih (Nat.add_le_add_right h _)

/-- Failures that a call has met are nearer than before. -/
theorem foldl_after_meet_le (call : String) (n : Nat) (failures : List ArmedFailure) :
    (ArmedFailure.meet call failures).2.foldl (fun n f => n + (f.after + 1)) n ≤
      failures.foldl (fun n f => n + (f.after + 1)) n := by
  induction failures generalizing n with
  | nil => exact Nat.le_refl n
  | cons f failures ih =>
    rw [ArmedFailure.meet]
    split
    · split
      · exact foldl_after_le (Nat.le_add_right n _) failures
      · rw [List.foldl_cons, List.foldl_cons]
        exact foldl_after_le (by simp only; omega) failures
    · exact ih _

theorem patience_note_le (call : Call) (g : Gateway) : (note call g).2.patience ≤ g.patience :=
  Nat.add_le_add_left (foldl_after_meet_le call.name 0 g.failures) _

theorem carries_connect : Carries (IsSpared pages) connect connect := by
  rintro g _ a g' ⟨rfl, hpages⟩ hrun
  unfold connect at hrun ⊢
  cases hpending : g.connection.pending with
  | none =>
    simp only [hpending] at hrun
    cases hrun
    exact ⟨_, by simp only [spare, hpending], rfl, hpages⟩
  | some outcome =>
    simp only [hpending] at hrun
    cases outcome with
    | error fault => cases hrun
    | ok name =>
      cases hrun
      exact ⟨_, by simp only [spare, hpending], rfl, hpages⟩

/-- A call that was answered has met no failure, and is answered the same without any. -/
theorem carries_callServer (call : Call) {serve : Server → Except CallFailure α}
    (hserve : ∀ server, serve { server with pageLimit := pages } = serve server) :
    Carries (IsSpared pages) (callServer call serve) (callServer call serve) := by
  rintro g _ a g' ⟨rfl, hpages⟩ hrun
  rw [callServer] at hrun
  split at hrun
  next => cases hrun
  next =>
    split at hrun
    next hanswer =>
      cases hrun
      have hspared : callServer call serve (g.spare pages) =
          .ok a ((note call g).2.spare pages) := by
        simp only [callServer, note, spare, ArmedFailure.meet, hserve, hanswer]
      exact ⟨_, hspared, rfl, Nat.le_trans (patience_note_le call g) hpages⟩
    next => cases hrun

theorem carries_place (call : Call) {serve : Server → Except CallFailure α}
    (hserve : ∀ server, serve { server with pageLimit := pages } = serve server) :
    Carries (IsSpared pages) (place call serve) (place call serve) :=
  carries_connect.bind fun _ => carries_callServer call hserve

theorem carries_listPage (name : ListName) {serve : Server → ListCall → Answer α}
    (hserve : ∀ server, serve { server with pageLimit := pages } = serve server)
    (resume : Option String) (limit : Option Int) :
    Carries (IsSpared pages) (listPage name serve resume limit)
      (listPage name serve resume limit) := by
  refine carries_get_bind ?_
  rintro g _ ⟨rfl, -⟩
  refine (carries_place _ fun server => ?_).bind fun answer => ?_
  · rw [hserve]
  · exact (carries_ofExcept _ _).bind fun items => carries_pure _

theorem carries_role (ns name : String) :
    Carries (IsSpared pages) (role ns name) (role ns name) :=
  (carries_place _ fun _ => rfl).bind fun answer => carries_ofExcept _ answer

theorem carries_clusterRole (name : String) :
    Carries (IsSpared pages) (clusterRole name) (clusterRole name) :=
  (carries_place _ fun _ => rfl).bind fun answer => carries_ofExcept _ answer

theorem carries_drain {fetch : Option String → Fetch (Page α)}
    (h : ∀ resume, Carries (IsSpared pages) (fetch resume) (fetch resume)) :
    Carries (IsSpared pages) (drain fetch) (drain fetch) := by
  refine carries_get_bind fun g g' hg => ?_
  exact carries_followFrom h hg.patience_le_patience [] none

end Gateway

open Gateway (carries_clusterRole carries_drain carries_followFrom carries_listPage carries_role
  listPage)

/-! ## Components -/

/-- The second component is in the state of the first one, over a gateway with no failures to
come. -/
structure Linked.IsSpared {σ : Type} (pages : Nat) (l l' : Linked σ) : Prop where
  own_eq : l'.own = l.own
  gateway : l.gateway.IsSpared pages l'.gateway

section Components

variable {σ τ α : Type} {pages : Nat}

theorem Linked.carries_fetch {act : Fetch α} (h : Carries (Gateway.IsSpared pages) act act) :
    Carries (Linked.IsSpared (σ := σ) pages) (fetch act) (fetch act) :=
  h.onPart (fun _ _ hl => hl.gateway) fun _ _ _ _ hg hl => ⟨hl.own_eq, hg⟩

theorem Linked.carries_within {part : σ} {wrap : σ → τ} {act : Action (Linked σ) α}
    (h : Carries (Linked.IsSpared pages) act act) :
    Carries (Linked.IsSpared pages) (within part wrap act) (within part wrap act) :=
  h.onPart (fun _ _ hl => ⟨rfl, hl.gateway⟩)
    fun _ _ _ _ hs _ => ⟨congrArg wrap hs.own_eq, hs.gateway⟩

/-- A component changes its own state as it would over the other gateway. -/
theorem Linked.carries_modify_own (f : Int → σ → σ) :
    Carries (Linked.IsSpared pages)
      (modify fun l : Linked σ => { l with own := f l.gateway.clock l.own })
      (modify fun l : Linked σ => { l with own := f l.gateway.clock l.own }) := by
  refine carries_modify fun l l' hl => ⟨?_, hl.gateway⟩
  rw [hl.own_eq, hl.gateway.clock_eq]

/-! ## Caches -/

theorem NamespaceCache.carries_names :
    Carries (Linked.IsSpared pages) NamespaceCache.names NamespaceCache.names := by
  refine carries_get_bind fun l l' hl => ?_
  rw [hl.own_eq, hl.gateway.clock_eq]
  cases l.own.current? l.gateway.clock with
  | some names => exact carries_pure names
  | none =>
    refine (Linked.carries_fetch ?_).bind fun names => ?_
    · exact (carries_drain fun _ => carries_listPage _ (fun _ => rfl) _ _).bind fun objects =>
        carries_pure _
    · refine Carries.bind ?_ fun _ => carries_pure names
      exact Linked.carries_modify_own fun now (cache : NamespaceCache) =>
        { cache with held := some (names, now) }

namespace BindingCache

theorem carries_load : Carries (Linked.IsSpared pages) load load := by
  refine (Linked.carries_modify_own fun _ => drop).bind fun _ => ?_
  refine (Linked.carries_fetch ?_).bind fun roleBindings => ?_
  · exact carries_drain fun _ => carries_listPage _ (fun _ => rfl) _ _
  refine (Linked.carries_fetch ?_).bind fun clusterRoleBindings => ?_
  · exact carries_drain fun _ => carries_listPage _ (fun _ => rfl) _ _
  exact Linked.carries_modify_own fun now => publish now roleBindings clusterRoleBindings

theorem carries_ensureLoaded : Carries (Linked.IsSpared pages) ensureLoaded ensureLoaded := by
  refine carries_get_bind fun l l' hl => ?_
  rw [hl.own_eq, hl.gateway.clock_eq]
  cases l.own.isFresh l.gateway.clock with
  | true => exact carries_pure ()
  | false => exact carries_load

theorem carries_matchingRole (ns name : String) :
    Carries (Linked.IsSpared pages) (matchingRole ns name) (matchingRole ns name) := by
  refine carries_ensureLoaded.bind fun _ => carries_get_bind fun l l' hl => ?_
  rw [hl.own_eq]
  exact carries_pure _

theorem carries_matchingClusterRole (name : String) :
    Carries (Linked.IsSpared pages) (matchingClusterRole name) (matchingClusterRole name) := by
  refine carries_ensureLoaded.bind fun _ => carries_get_bind fun l l' hl => ?_
  rw [hl.own_eq]
  exact carries_pure _

end BindingCache

/-! ## Catalogues -/

namespace PrincipalListing

theorem carries_give (names : List String) :
    Carries (Linked.IsSpared pages) (give names) (give names) := by
  refine carries_get_bind fun l l' hl => ?_
  rw [hl.own_eq]
  refine Carries.bind ?_ fun _ => carries_pure _
  rintro _ _ _ _ - ⟨⟩
  exact ⟨_, rfl, rfl, hl.gateway⟩

theorem carries_list (token : PageToken) :
    Carries (Linked.IsSpared pages) (list token) (list token) := by
  refine carries_get_bind fun l l' hl => ?_
  rw [hl.own_eq]
  refine (carries_give _).bind fun builtIn => (Linked.carries_fetch ?_).bind fun page => ?_
  · cases token.phase.getD .roleBindings with
    | roleBindings =>
      exact (carries_listPage _ (fun _ => rfl) _ _).bind fun page => carries_pure _
    | clusterRoleBindings =>
      exact (carries_listPage _ (fun _ => rfl) _ _).bind fun page => carries_pure _
  · exact (carries_give _).bind fun named => carries_pure _

end PrincipalListing

namespace Catalog

theorem carries_listPaged (kind : ResourceKind) (name : ListName)
    {serve : Server → ListCall → Answer α}
    (hserve : ∀ server, serve { server with pageLimit := pages } = serve server)
    (toResource : α → Except RefFault Resource) (token : PageToken) :
    Carries (Gateway.IsSpared pages)
      (listPaged kind (fun resume => listPage name serve resume none) toResource token)
      (listPaged kind (fun resume => listPage name serve resume none) toResource token) := by
  refine (carries_listPage name hserve _ none).bind fun page => ?_
  refine carries_get_bind fun g g' hg => ?_
  rw [hg.now_eq]
  exact carries_pure _

theorem carries_list (token : String) :
    Carries (Linked.IsSpared pages) (list token) (list token) := by
  refine (carries_ofExcept _ _).bind fun t => carries_get_bind fun l l' hl => ?_
  rw [hl.own_eq]
  cases l.own with
  | inventory i => exact Linked.carries_fetch (carries_listPaged _ _ (fun _ => rfl) _ t)
  | roles => exact Linked.carries_fetch (carries_listPaged _ _ (fun _ => rfl) _ t)
  | clusterRoles cache => exact Linked.carries_fetch (carries_listPaged _ _ (fun _ => rfl) _ t)
  | principals listing => exact Linked.carries_within (PrincipalListing.carries_list t)

theorem carries_namespaces : Carries (Linked.IsSpared pages) namespaces namespaces := by
  refine carries_get_bind fun l l' hl => ?_
  rw [hl.own_eq]
  cases l.own with
  | clusterRoles cache => exact Linked.carries_within NamespaceCache.carries_names
  | _ => exact carries_pure _

theorem carries_entitlements (r : Resource) :
    Carries (Linked.IsSpared pages) (entitlements r) (entitlements r) := by
  refine carries_get_bind fun l l' hl => ?_
  rw [hl.own_eq]
  cases l.own with
  | clusterRoles cache => exact carries_namespaces.bind fun names => carries_pure _
  | _ => exact carries_pure _

theorem carries_grantsOfRole (ref : ResourceRef) :
    Carries (Linked.IsSpared pages) (grantsOfRole ref) (grantsOfRole ref) := by
  rw [grantsOfRole]
  split
  next => exact carries_pure []
  next =>
    refine (carries_ofExcept _ _).bind fun names => ?_
    refine (Linked.carries_fetch (carries_role _ _)).bind fun role => ?_
    exact (BindingCache.carries_matchingRole _ _).bind fun bindings => carries_pure _

theorem carries_grantsOfClusterRole (ref : ResourceRef) :
    Carries (Linked.IsSpared pages) (grantsOfClusterRole ref) (grantsOfClusterRole ref) := by
  rw [grantsOfClusterRole]
  split
  next => exact carries_pure []
  next =>
    refine (BindingCache.carries_matchingClusterRole _).bind fun bindings => ?_
    exact (Linked.carries_fetch (carries_clusterRole _)).bind fun role => carries_pure _

theorem carries_grants (c : Catalog) (r : Resource) :
    Carries (Linked.IsSpared pages) (c.grants r) (c.grants r) := by
  cases c with
  | roles => exact carries_grantsOfRole r.ref
  | clusterRoles cache => exact carries_grantsOfClusterRole r.ref
  | _ => exact carries_pure []

end Catalog

end Components

/-! ## Tours -/

namespace Tour

variable {α : Type} {pages : Nat}

/-- The second tour has come as far as the first one, over a gateway with no failures to come. -/
structure IsSpared (pages : Nat) (t t' : Tour) : Prop where
  catalog_eq : t'.catalog = t.catalog
  bindings_eq : t'.bindings = t.bindings
  gateway : t.gateway.IsSpared pages t'.gateway

theorem carries_onCatalog {act : Action (Linked Catalog) α}
    (h : Carries (Linked.IsSpared pages) act act) :
    Carries (IsSpared pages) (onCatalog act) (onCatalog act) :=
  h.onPart (fun _ _ ht => ⟨ht.catalog_eq, ht.gateway⟩)
    fun _ _ _ _ hl ht => ⟨hl.own_eq, ht.bindings_eq, hl.gateway⟩

theorem carries_onBindings {act : Action (Linked BindingCache) α}
    (h : Carries (Linked.IsSpared pages) act act) :
    Carries (IsSpared pages) (onBindings act) (onBindings act) :=
  h.onPart (fun _ _ ht => ⟨ht.bindings_eq, ht.gateway⟩)
    fun _ _ _ _ hl ht => ⟨ht.catalog_eq, hl.own_eq, hl.gateway⟩

theorem carries_resources : Carries (IsSpared pages) resources resources := by
  refine carries_get_bind fun t t' ht => ?_
  exact carries_followFrom (fun _ => carries_onCatalog (Catalog.carries_list _))
    (Nat.mul_le_mul_left 2 ht.gateway.patience_le_patience) [] none

theorem carries_details (r : Resource) :
    Carries (IsSpared pages) (details r) (details r) := by
  refine (carries_onCatalog (Catalog.carries_entitlements r)).bind fun entitlements => ?_
  refine carries_get_bind fun t t' ht => ?_
  rw [ht.catalog_eq]
  exact (carries_onBindings (Catalog.carries_grants _ r)).bind fun grants => carries_pure _

theorem carries_snapshot : Carries (IsSpared pages) snapshot snapshot := by
  refine carries_resources.bind fun resources => ?_
  refine (Carries.mapM carries_details resources).bind fun details => ?_
  refine carries_get_bind fun t t' ht => ?_
  rw [ht.catalog_eq]
  exact carries_pure _

end Tour

/-! ## Snapshots -/

namespace Auditor

/-- The second auditor has the settings and the bindings of the first one, over a gateway with no
failures to come. -/
structure IsSpared (pages : Nat) (a a' : Auditor) : Prop where
  settings_eq : a'.settings = a.settings
  bindings_eq : a'.bindings = a.bindings
  gateway : a.gateway.IsSpared pages a'.gateway

variable {pages : Nat}

theorem carries_tour (c : Catalog) :
    Carries (IsSpared pages) (tour c Tour.snapshot) (tour c Tour.snapshot) :=
  Tour.carries_snapshot.onPart (fun _ _ ha => ⟨rfl, ha.bindings_eq, ha.gateway⟩)
    fun _ _ _ _ ht ha => ⟨ha.settings_eq, ht.bindings_eq, ht.gateway⟩

theorem carries_snapshot : Carries (IsSpared pages) snapshot snapshot := by
  refine carries_get_bind fun a a' ha => ?_
  rw [ha.settings_eq]
  exact (Carries.mapM carries_tour _).bind fun parts => carries_pure _

/-- Whatever failures were to come, a snapshot that a new auditor has taken is the one that it takes
when none are. -/
theorem exists_snapshot_spared {settings : Settings} {gateway : Gateway} {s : Snapshot}
    {after : Auditor} (hrun : snapshot (ofGateway settings gateway) = .ok s after) :
    ∃ after', snapshot (ofGateway settings (gateway.spare gateway.patience)) = .ok s after' := by
  have hspared : IsSpared gateway.patience (ofGateway settings gateway)
      (ofGateway settings (gateway.spare gateway.patience)) :=
    ⟨rfl, rfl, rfl, Nat.le_refl _⟩
  obtain ⟨after', hrun', -⟩ := carries_snapshot _ _ s after hspared hrun
  exact ⟨after', hrun'⟩

end Auditor
end ClusterAccess
