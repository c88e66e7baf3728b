/-
  ClusterAccess.Proofs.ScopeSlugs

  What the slug of a membership of a cluster role tells of its scope. Slugs tell all
  scopes apart but one pair: a membership across the cluster and one inside a
  namespace that is called `all` read the same. So do the entitlements to them.
-/
import ClusterAccess.Proofs.OfferedMemberships

namespace ClusterAccess

/-! ## Scopes in slugs -/

/-- What follows the scope can be taken off again. -/
theorem scoped_injective {a b : String} (h : a ++ ":" ++ member = b ++ ":" ++ member) : a = b := by
  rw [← String.toList_inj] at h ⊢
  simpa using h

namespace Grant

/-- The scopes that have a slug in common. -/
theorem scopeSlug_eq_iff {a b : Option String} (ha : a ≠ some "") (hb : b ≠ some "") :
    scopeSlug a = scopeSlug b ↔
      a = b ∨ (a = none ∧ b = some "all") ∨ (a = some "all" ∧ b = none) := by
  cases a with
  | none =>
    cases b with
    | none => simp
    | some ns =>
      have hns : ns ≠ "" := fun heq => hb (by rw [heq])
      simp [scopeSlug, hns, @eq_comm _ "all"]
  | some ns =>
    have hns : ns ≠ "" := fun heq => ha (by rw [heq])
    cases b with
    | none => simp [scopeSlug, hns]
    | some ns' =>
      have hns' : ns' ≠ "" := fun heq => hb (by rw [heq])
      simp [scopeSlug, hns, hns']

end Grant

/-- No binding confines to a namespace without a name. -/
theorem Binding.scope_ne_empty (confined : Bool) (b : Binding) : b.scope confined ≠ some "" := by
  rw [scope]
  split
  next h =>
    intro heq
    exact h.2 (Option.some.inj heq)
  next =>
    intro heq
    cases heq

/-! ## Grants of a cluster role -/

namespace Catalog

variable {ref : ResourceRef} {known : List Grant} {g g' : Grant} {l l' : Linked BindingCache}

/-- What principals hold of a cluster role comes from the bindings to it, whatever had been loaded
before. -/
theorem comesFrom_of_grantsOfClusterRole (hkind : ref.kind = .clusterRole)
    (hrun : grantsOfClusterRole ref l = .ok known l') (hg : g ∈ known)
    (hheld : g.HeldByPrincipal) : ∃ b, g.ComesFrom b ref ∧ g.scope = b.scope true := by
  rw [grantsOfClusterRole] at hrun
  split at hrun
  · cases hrun
    cases hg
  · obtain ⟨bound, mid, -, hrest⟩ := Action.bind_ok hrun
    obtain ⟨role, mid', -, hpure⟩ := Action.bind_ok hrest
    cases hpure
    obtain ⟨b, -, hfrom⟩ := Grant.exists_comesFrom_of_mem_confined hkind hg hheld
    exact ⟨b, hfrom⟩

/-- Two memberships of a cluster role read the same if their scopes have a slug in common. -/
theorem slug_eq_iff (hkind : ref.kind = .clusterRole)
    (hrun : grantsOfClusterRole ref l = .ok known l') (hg : g ∈ known) (hg' : g' ∈ known)
    (hheld : g.HeldByPrincipal) (hheld' : g'.HeldByPrincipal) :
    g.slug = g'.slug ↔ g.scope = g'.scope ∨ (g.scope = none ∧ g'.scope = some "all") ∨
      (g.scope = some "all" ∧ g'.scope = none) := by
  obtain ⟨b, hfrom, hscope⟩ := comesFrom_of_grantsOfClusterRole hkind hrun hg hheld
  obtain ⟨b', hfrom', hscope'⟩ := comesFrom_of_grantsOfClusterRole hkind hrun hg' hheld'
  have hne : g.scope ≠ some "" := by
    rw [hscope]
    exact b.scope_ne_empty true
  have hne' : g'.scope ≠ some "" := by
    rw [hscope']
    exact b'.scope_ne_empty true
  rw [hfrom.slug_eq hkind, hfrom'.slug_eq hkind, ← Grant.scopeSlug_eq_iff hne hne']
  constructor
  · exact scoped_injective
  · intro heq
    rw [heq]

end Catalog

/-! ## Entitlements on a cluster role -/

namespace Entitlement

/-- The id of the entitlement to a cluster role inside a namespace. -/
theorem id_injective_within {r : Resource} {a b : String} (h : (within r a).id = (within r b).id) :
    a = b := by
  have hslug : a ++ ":" ++ member = b ++ ":" ++ member := by
    rw [← String.toList_inj] at h ⊢
    simpa [id, within, membership] using h
  exact scoped_injective hslug

/-- The entitlement across the cluster has the id of one inside a namespace. -/
theorem id_clusterWide (r : Resource) : (clusterWide r).id = (within r "all").id := rfl

/-- The entitlements on a cluster role can be told apart if the namespaces can, and if none of them
is called like the whole cluster. -/
theorem nodup_id_ofClusterRole_iff {names : List String} {r : Resource} :
    ((ofClusterRole names r).map id).Nodup ↔ names.Nodup ∧ "all" ∉ names := by
  have hids : (ofClusterRole names r).map id = ("all" :: names).map fun ns => (within r ns).id := by
    rw [ofClusterRole, List.map_cons, id_clusterWide, List.map_map]
    rfl
  have hinjective : Function.Injective fun ns => (within r ns).id := fun _ _ => id_injective_within
  rw [hids, List.nodup_map_iff hinjective, List.nodup_cons, and_comm]

end Entitlement

namespace Catalog

variable {l l' : Linked Catalog} {cache : NamespaceCache} {r : Resource}
  {offered : List Entitlement}

/-- The entitlements on a cluster role are those for the names of namespaces. -/
theorem entitlements_ok (hown : l.own = .clusterRoles cache)
    (hrun : entitlements r l = .ok offered l') :
    ∃ names, namespaces l = .ok names l' ∧ offered = Entitlement.ofClusterRole names r := by
  rw [entitlements, Action.bind_apply, Action.get_apply] at hrun
  simp only [hown] at hrun
  obtain ⟨names, mid, hnames, hpure⟩ := Action.bind_ok hrun
  cases hpure
  exact ⟨names, hnames, rfl⟩

/-- What slugs tell of scopes, exactly. Of what principals hold of a cluster role, two memberships
have one slug if and only if they have one scope, or the one reaches across the cluster and the other
into the namespace called `all`; and the entitlements on a cluster role have ids of their own if and
only if the namespaces have names of their own, none of them `all`. -/
theorem slugs_tell_scopes (name : String) (r : Resource) (cache : NamespaceCache) :
    (∀ l known l', grantsOfClusterRole ⟨.clusterRole, name⟩ l = .ok known l' →
      ∀ g ∈ known, ∀ g' ∈ known, g.HeldByPrincipal → g'.HeldByPrincipal →
        (g.slug = g'.slug ↔ g.scope = g'.scope ∨ (g.scope = none ∧ g'.scope = some "all") ∨
          (g.scope = some "all" ∧ g'.scope = none))) ∧
      ∀ l offered l', l.own = .clusterRoles cache → entitlements r l = .ok offered l' →
        ∃ names, namespaces l = .ok names l' ∧
          ((offered.map Entitlement.id).Nodup ↔ names.Nodup ∧ "all" ∉ names) := by
  constructor
  · intro l known l' hrun g hg g' hg' hheld hheld'
    exact slug_eq_iff rfl hrun hg hg' hheld hheld'
  · intro l offered l' hown hrun
    obtain ⟨names, hnames, rfl⟩ := entitlements_ok hown hrun
    exact ⟨names, hnames, Entitlement.nodup_id_ofClusterRole_iff⟩

/-! ## Two clusters -/

/-- Nothing loaded before, a cluster role has the grants of what is held. -/
theorem exists_grantsOfClusterRole {h : Holdings} {ref : ResourceRef} {p : List Grant → Bool}
    (hp : (h.grantsOfClusterRole ref).toOption.any p = true) :
    ∃ known l', grantsOfClusterRole ref ⟨{ ttl := 300 }, h.gateway⟩ = .ok known l' ∧
      p known = true := by
  obtain ⟨known, hknown, hpasses⟩ := (Option.any_eq_true _ _).1 hp
  have hcomes : Action.ComesTo (BindingCache.Standing h h.server 1 "") (grantsOfClusterRole ref)
      (h.grantsOfClusterRole ref) :=
    comesTo_grantsOfClusterRole (h.shows_server Nat.one_pos) ref
  have hstanding : BindingCache.Standing h h.server 1 "" ⟨{ ttl := 300 }, h.gateway⟩ :=
    ⟨fun hloaded => absurd hloaded Bool.false_ne_true, h.reachesAt_gateway⟩
  rw [toOption_eq_some_iff.1 hknown] at hcomes
  obtain ⟨l', hrun, -⟩ := hcomes.eq_ok hstanding
  exact ⟨known, l', hrun, hpasses⟩

/-- And it has the entitlements of what is held. -/
theorem exists_entitlements {h : Holdings} {r : Resource} {p : List Entitlement → Bool}
    (hp : (h.entitlements r (.clusterRoles { ttl := 300 })).toOption.any p = true) :
    ∃ offered l', entitlements r ⟨.clusterRoles { ttl := 300 }, h.gateway⟩ = .ok offered l' ∧
      p offered = true := by
  obtain ⟨offered, hoffered, hpasses⟩ := (Option.any_eq_true _ _).1 hp
  have hcomes : Action.ComesTo (Standing h h.server 1 "" (.clusterRoles { ttl := 300 }))
      (entitlements r) (h.entitlements r (.clusterRoles { ttl := 300 })) :=
    comesTo_entitlements (h.shows_server Nat.one_pos) r
  have hnew : (Catalog.clusterRoles { ttl := 300 }).IsNew := rfl
  have hstanding : Standing h h.server 1 "" (.clusterRoles { ttl := 300 })
      ⟨.clusterRoles { ttl := 300 }, h.gateway⟩ :=
    ⟨hnew.standsFor, h.reachesAt_gateway⟩
  rw [toOption_eq_some_iff.1 hoffered] at hcomes
  obtain ⟨l', hrun, -⟩ := hcomes.eq_ok hstanding
  exact ⟨offered, l', hrun, hpasses⟩

/-- A resource that is a cluster role. -/
def roleResource (name : String) : Resource :=
  { ref := ⟨.clusterRole, name⟩, displayName := name, traits := ResourceKind.clusterRole.traits }

/-- In the office, the keeper of everything and the one of a team are told apart, and so are the
places that are offered. -/
theorem slugs_tell_scopes_office :
    (∃ known l', grantsOfClusterRole ⟨.clusterRole, "keeper"⟩
        ⟨{ ttl := 300 }, Auditor.office.gateway⟩ = .ok known l' ∧
      ∃ g ∈ known, ∃ g' ∈ known, g.HeldByPrincipal ∧ g'.HeldByPrincipal ∧ g.scope = none ∧
        g'.scope = some "team-b" ∧ g.slug ≠ g'.slug) ∧
      ∃ offered l', entitlements (roleResource "keeper")
          ⟨.clusterRoles { ttl := 300 }, Auditor.office.gateway⟩ = .ok offered l' ∧
        ∃ names, namespaces ⟨.clusterRoles { ttl := 300 }, Auditor.office.gateway⟩ =
            .ok names l' ∧
          (offered.map Entitlement.id).Nodup ∧ names.Nodup ∧ "all" ∉ names := by
  obtain ⟨hgrants, hentitlements⟩ :=
    slugs_tell_scopes "keeper" (roleResource "keeper") { ttl := 300 }
  constructor
  · have hheld : ((Auditor.office.grantsOfClusterRole ⟨.clusterRole, "keeper"⟩).toOption.any
        fun known =>
          known.contains ⟨member, ⟨.user, "alice"⟩, ⟨.clusterRole, "keeper"⟩, none⟩ &&
            known.contains ⟨member, ⟨.user, "bob"⟩, ⟨.clusterRole, "keeper"⟩, some "team-b"⟩) =
        true := by
      decide +kernel
    obtain ⟨known, l', hrun, hboth⟩ := exists_grantsOfClusterRole hheld
    rw [Bool.and_eq_true, List.contains_iff_mem, List.contains_iff_mem] at hboth
    have hapart := hgrants _ known l' hrun _ hboth.1 _ hboth.2 (by decide) (by decide)
    refine ⟨known, l', hrun, _, hboth.1, _, hboth.2, by decide, by decide, rfl, rfl, ?_⟩
    exact fun hslug => absurd (hapart.1 hslug) (by decide)
  · have hids : ((Auditor.office.entitlements (roleResource "keeper")
        (.clusterRoles { ttl := 300 })).toOption.any fun offered =>
          decide (offered.map Entitlement.id).Nodup) = true := by
      decide +kernel
    obtain ⟨offered, l', hrun, hnodup⟩ := exists_entitlements hids
    obtain ⟨names, hnames, hiff⟩ := hentitlements _ offered l' rfl hrun
    have hapart := hiff.1 (of_decide_eq_true hnodup)
    exact ⟨offered, l', hrun, names, hnames, of_decide_eq_true hnodup, hapart⟩

/-- A cluster with a namespace that is called like the whole of it. -/
def commons : Contents where
  clusterRoles := [{ object := { kind := "ClusterRole", name := "view" }, rules := [] }]
  roleBindings := [⟨"viewers", "all", ⟨"ClusterRole", "view", ""⟩, [⟨"User", "bob", "", ""⟩]⟩]
  clusterRoleBindings := [⟨"viewers", ⟨"ClusterRole", "view", ""⟩, [⟨"User", "alice", "", ""⟩]⟩]
  objects
    | .nameSpace => [
      { kind := "Namespace", name := "all" }, { kind := "Namespace", name := "team-a" }]
    | _ => []

/-- There, who may view one namespace reads like who may view everything, and the two places that
are offered have one id. -/
theorem not_slugs_tell_scopes_commons :
    (∀ b ∈ commons.roleBindings, b.ns ≠ "" ∧ ':' ∉ b.ns.toList) ∧
      (∃ known l', grantsOfClusterRole ⟨.clusterRole, "view"⟩
          ⟨{ ttl := 300 }, commons.holdings.gateway⟩ = .ok known l' ∧
        ∃ g ∈ known, ∃ g' ∈ known, g.HeldByPrincipal ∧ g'.HeldByPrincipal ∧
          g.slug = g'.slug ∧ g.scope ≠ g'.scope) ∧
      commons.holdings.namespaces = .ok ["all", "team-a"] ∧
        ∃ offered l', entitlements (roleResource "view")
            ⟨.clusterRoles { ttl := 300 }, commons.holdings.gateway⟩ = .ok offered l' ∧
          ¬ (offered.map Entitlement.id).Nodup := by
  refine ⟨by decide, ?_, rfl, ?_⟩
  · have hheld : ((commons.holdings.grantsOfClusterRole ⟨.clusterRole, "view"⟩).toOption.any
        fun known =>
          known.contains ⟨member, ⟨.user, "alice"⟩, ⟨.clusterRole, "view"⟩, none⟩ &&
            known.contains ⟨member, ⟨.user, "bob"⟩, ⟨.clusterRole, "view"⟩, some "all"⟩) =
        true := by
      decide +kernel
    obtain ⟨known, l', hrun, hboth⟩ := exists_grantsOfClusterRole hheld
    rw [Bool.and_eq_true, List.contains_iff_mem, List.contains_iff_mem] at hboth
    exact ⟨known, l', hrun, _, hboth.1, _, hboth.2, by decide, by decide, by decide, by decide⟩
  · have hids : ((commons.holdings.entitlements (roleResource "view")
        (.clusterRoles { ttl := 300 })).toOption.any fun offered =>
          !decide (offered.map Entitlement.id).Nodup) = true := by
      decide +kernel
    obtain ⟨offered, l', hrun, hrepeats⟩ := exists_entitlements hids
    exact ⟨offered, l', hrun, by simpa using hrepeats⟩

end Catalog
end ClusterAccess
