/-
  ClusterAccess.Proofs.BindingUpkeep

  What becomes of the bindings while no time passes, however an action ends. A
  load that counts is kept. One that does not is kept as well, or dropped, or
  replaced by both lists as the server has them now; the new one counts, so that
  there is never a second load.
-/
import ClusterAccess.Proofs.BindingFreshness
import ClusterAccess.Proofs.CatalogPages

namespace ClusterAccess

open ClusterAccess.Action Gateway

/-! ## A cache -/

namespace BindingCache

/-- What a cache may become while no time passes: itself, or unless its load counts, a cache
without a load, or one with both lists as the server has them. -/
inductive Tended (l : Linked BindingCache) (c : BindingCache) : Prop
  | kept : c = l.own → Tended l c
  | dropped : l.own.isFresh l.gateway.clock = false → c = l.own.drop → Tended l c
  | loaded {calls : List Call} {roleBindings : List RoleBinding}
      {clusterRoleBindings : List ClusterRoleBinding} :
    l.own.isFresh l.gateway.clock = false →
      FullRead l.gateway.server l.gateway.pageSize calls roleBindings clusterRoleBindings →
        c = l.own.publish l.gateway.clock roleBindings clusterRoleBindings → Tended l c

/-- The gateway is steady, and the cache is tended. -/
structure Tends (l l' : Linked BindingCache) : Prop where
  gateway : Steady l.gateway l'.gateway
  own : Tended l l'.own

variable {l l' l'' : Linked BindingCache}

/-- A load that was published just now counts. -/
theorem isFresh_publish (c : BindingCache) (now : Int) (roleBindings : List RoleBinding)
    (clusterRoleBindings : List ClusterRoleBinding) :
    (c.publish now roleBindings clusterRoleBindings).isFresh now := by
  refine isFresh_iff.2 ⟨rfl, ?_⟩
  simp only [publish]
  omega

theorem Tended.of_steady {g g' : Gateway} {c c' : BindingCache} (h : Tended ⟨c, g⟩ c')
    (hg : Steady g' g) : Tended ⟨c, g'⟩ c' := by
  cases h with
  | kept heq => exact .kept heq
  | dropped hstale heq => exact .dropped (hg.clock_eq ▸ hstale) heq
  | loaded hstale hread heq =>
    simp only [hg.clock_eq, hg.server_eq, hg.pageSize_eq] at hstale hread heq
    exact .loaded hstale hread heq

theorem Tended.trans {c c' : BindingCache} (h : Tended l c) (h' : Tended ⟨c, l.gateway⟩ c') :
    Tended l c' := by
  cases h with
  | kept heq =>
    subst heq
    exact h'
  | dropped hstale heq =>
    subst heq
    cases h' with
    | kept heq => exact .dropped hstale heq
    | dropped _ heq => exact .dropped hstale heq
    | loaded _ hread heq => exact .loaded hstale hread heq
  | loaded hstale hread heq =>
    subst heq
    -- The load counts now, so it is not replaced.
    have hfresh := isFresh_publish l.own l.gateway.clock
    cases h' with
    | kept heq => exact .loaded hstale hread heq
    | dropped hstale' _ => exact absurd (hstale'.symm.trans (hfresh _ _)) Bool.false_ne_true
    | loaded hstale' _ _ => exact absurd (hstale'.symm.trans (hfresh _ _)) Bool.false_ne_true

theorem Tends.refl (l : Linked BindingCache) : Tends l l := ⟨.refl _, .kept rfl⟩

theorem Tends.trans (h : Tends l l') (h' : Tends l' l'') : Tends l l'' :=
  ⟨h.gateway.trans h'.gateway, h.own.trans (h'.own.of_steady h.gateway)⟩

theorem keeps_ensureLoaded : Keeps Tends ensureLoaded := by
  intro l
  cases hfresh : l.own.isFresh l.gateway.clock with
  | true =>
    rw [ensureLoaded_of_isFresh hfresh]
    exact .refl l
  | false =>
    rw [ensureLoaded_of_not_isFresh hfresh]
    have hends := endsLoad_load l
    cases hload : load l with
    | ok _ l' =>
      rw [hload] at hends
      obtain ⟨hsteady, _, _, _, hread, -, hown⟩ := hends
      exact ⟨hsteady, .loaded hfresh hread hown⟩
    | error e l' =>
      rw [hload] at hends
      obtain ⟨hsteady, _, -, -, hown⟩ := hends
      exact ⟨hsteady, .dropped hfresh hown⟩

theorem keeps_matchingRole (ns name : String) : Keeps Tends (matchingRole ns name) :=
  Keeps.bind Tends.trans keeps_ensureLoaded fun _ => keeps_get_bind Tends.refl

theorem keeps_matchingClusterRole (name : String) : Keeps Tends (matchingClusterRole name) :=
  Keeps.bind Tends.trans keeps_ensureLoaded fun _ => keeps_get_bind Tends.refl

theorem keeps_ask (q : Query) : Keeps Tends (ask q) := by
  cases q with
  | role ns name =>
    exact Keeps.bind Tends.trans (keeps_matchingRole ns name) fun _ => keeps_pure Tends.refl _
  | clusterRole name =>
    exact Keeps.bind Tends.trans (keeps_matchingClusterRole name) fun _ =>
      keeps_pure Tends.refl _

theorem keeps_fetch {α : Type} {act : Fetch α} (h : IsSteady act) :
    Keeps Tends (Linked.fetch act : Action (Linked BindingCache) α) :=
  Linked.keeps_fetch h fun _ _ hg => ⟨hg, .kept rfl⟩

/-- What holds of a cache and its gateway however they are tended. -/
def Endures (P : Linked BindingCache → Prop) : Prop :=
  ∀ l l', P l → Tends l l' → P l'

end BindingCache

/-! ## Grants -/

namespace Catalog

open BindingCache (Tends)

theorem keeps_grantsOfRole (ref : ResourceRef) : Keeps Tends (grantsOfRole ref) := by
  rw [grantsOfRole]
  split
  next => exact keeps_pure Tends.refl _
  next =>
    refine Keeps.bind Tends.trans (keeps_ofExcept Tends.refl _ _) fun names => ?_
    refine Keeps.bind Tends.trans (BindingCache.keeps_fetch (isSteady_role _ _)) fun r => ?_
    exact Keeps.bind Tends.trans (BindingCache.keeps_matchingRole _ _) fun bindings =>
      keeps_pure Tends.refl _

theorem keeps_grantsOfClusterRole (ref : ResourceRef) : Keeps Tends (grantsOfClusterRole ref) := by
  rw [grantsOfClusterRole]
  split
  next => exact keeps_pure Tends.refl _
  next =>
    refine Keeps.bind Tends.trans (BindingCache.keeps_matchingClusterRole _) fun bindings => ?_
    exact Keeps.bind Tends.trans (BindingCache.keeps_fetch (isSteady_clusterRole _)) fun r =>
      keeps_pure Tends.refl _

/-- The grants of a resource only tend the bindings. -/
theorem keeps_grants (c : Catalog) (r : Resource) : Keeps Tends (c.grants r) := by
  cases c with
  | inventory i => exact keeps_pure Tends.refl _
  | roles => exact keeps_grantsOfRole r.ref
  | clusterRoles cache => exact keeps_grantsOfClusterRole r.ref
  | principals listing => exact keeps_pure Tends.refl _

end Catalog

/-! ## Tours -/

namespace Tour

/-- The bindings are tended, and the catalogue lists the same kind. -/
structure Tends (t t' : Tour) : Prop where
  bindings : BindingCache.Tends ⟨t.bindings, t.gateway⟩ ⟨t'.bindings, t'.gateway⟩
  kind_eq : t'.catalog.kind = t.catalog.kind

variable {t t' t'' : Tour}

theorem Tends.refl (t : Tour) : Tends t t := ⟨.refl _, rfl⟩

theorem Tends.trans (h : Tends t t') (h' : Tends t' t'') : Tends t t'' :=
  ⟨h.bindings.trans h'.bindings, h'.kind_eq.trans h.kind_eq⟩

variable {α : Type}

theorem keeps_onCatalog {act : Action (Linked Catalog) α} (h : Keeps Catalog.Stays act) :
    Keeps Tends (onCatalog act) :=
  h.onPart fun _ _ hl => ⟨⟨hl.gateway, .kept rfl⟩, hl.kind_eq⟩

theorem keeps_onBindings {act : Action (Linked BindingCache) α}
    (h : Keeps BindingCache.Tends act) : Keeps Tends (onBindings act) :=
  h.onPart fun _ _ hl => ⟨hl, rfl⟩

theorem keeps_resources : Keeps Tends resources :=
  keeps_get_bind fun t => keeps_followFrom Tends.refl Tends.trans
    (fun _ => keeps_onCatalog (Catalog.keeps_list _)) _ _ _ t

theorem keeps_details (r : Resource) : Keeps Tends (details r) := by
  refine Keeps.bind Tends.trans (keeps_onCatalog (Catalog.keeps_entitlements r)) fun found => ?_
  refine Keeps.bind Tends.trans (keeps_get Tends.refl) fun t => ?_
  exact Keeps.bind Tends.trans (keeps_onBindings (Catalog.keeps_grants t.catalog r)) fun grants =>
    keeps_pure Tends.refl _

theorem keeps_snapshot : Keeps Tends snapshot := by
  refine Keeps.bind Tends.trans keeps_resources fun found => ?_
  refine Keeps.bind Tends.trans (Keeps.mapM Tends.refl Tends.trans keeps_details found)
    fun details => ?_
  exact Keeps.bind Tends.trans (keeps_get Tends.refl) fun t => keeps_pure Tends.refl _

end Tour

end ClusterAccess
