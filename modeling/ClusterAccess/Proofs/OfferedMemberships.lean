/-
  ClusterAccess.Proofs.OfferedMemberships

  Nothing in a snapshot points out of it. Whoever is a member of a role by a binding
  is a member of a listed role, by way of a membership that the role offers to
  principals; and users and groups are listed themselves. The three come from
  different readings of the cluster: memberships from the loaded bindings, offers
  from the names of namespaces, users and groups from a listing of the bindings.
-/
import ClusterAccess.Proofs.HeldSnapshots
import ClusterAccess.Proofs.MembershipCounts

namespace ClusterAccess

/-! ## Principals in bindings -/

/-- A subject names a user or group if it is of that kind and has the name. -/
theorem Subject.resolve_eq_ok_iff {subject : Subject} {ns name : String}
    {principal : PrincipalKind} :
    subject.resolve ns = .ok ⟨principal.kind, name⟩ ↔
      subject.subjectKind = some principal.subjectKind ∧ subject.name = name ∧ name ≠ "" := by
  constructor
  · intro h
    unfold resolve at h
    split at h
    next hsubject =>
      -- A service account is neither.
      split at h
      · cases h
      · cases principal <;> cases h
    next hsubject =>
      split at h
      · cases h
      next hname =>
        cases principal with
        | user =>
          cases h
          exact ⟨hsubject, rfl, hname⟩
        | group => cases h
    next hsubject =>
      split at h
      · cases h
      next hname =>
        cases principal with
        | user => cases h
        | group =>
          cases h
          exact ⟨hsubject, rfl, hname⟩
    next => cases h
  · rintro ⟨hsubject, rfl, hname⟩
    rw [resolve, hsubject]
    cases principal <;>
      simp [PrincipalKind.subjectKind, PrincipalKind.kind, hname]

namespace PrincipalListing

variable {principal : PrincipalKind} {bindings : Contents}

/-- A listing looks through the subjects of all bindings. -/
theorem mem_subjectsIn_iff {subject : Subject} :
    subject ∈ subjectsIn bindings.roleBindings bindings.clusterRoleBindings ↔
      ∃ b ∈ bindings.allBindings, subject ∈ b.subjects := by
  have hsubjects : subjectsIn bindings.roleBindings bindings.clusterRoleBindings =
      bindings.allBindings.flatMap Binding.subjects := by
    rw [Contents.allBindings, List.flatMap_append, List.flatMap_map, List.flatMap_map]
    rfl
  rw [hsubjects, List.mem_flatMap]

/-- Everyone is who is built in and whom a binding names. -/
theorem mem_everyone_iff {name : String} :
    name ∈ everyone principal bindings.roleBindings bindings.clusterRoleBindings ↔
      name ∈ principal.builtIn ∨
        ∃ b ∈ bindings.allBindings, b.Names ⟨principal.kind, name⟩ := by
  rw [everyone, List.mem_eraseDups, List.mem_append]
  refine or_congr_right ?_
  constructor
  · intro hnamed
    obtain ⟨subject, hpasses, hname⟩ := List.mem_map.1 hnamed
    obtain ⟨hsubject, hpasses⟩ := List.mem_filter.1 hpasses
    obtain ⟨b, hb, hsubject⟩ := mem_subjectsIn_iff.1 hsubject
    rw [Bool.and_eq_true, beq_iff_eq, bne_iff_ne, hname] at hpasses
    have hresolve : subject.resolve b.ns = .ok ⟨principal.kind, name⟩ :=
      Subject.resolve_eq_ok_iff.2 ⟨hpasses.1, hname, hpasses.2⟩
    exact ⟨b, hb, subject, hsubject, hresolve⟩
  · rintro ⟨b, hb, subject, hsubject, hresolve⟩
    obtain ⟨hkind, hname, hne⟩ := Subject.resolve_eq_ok_iff.1 hresolve
    refine List.mem_map.2 ⟨subject, List.mem_filter.2 ⟨?_, ?_⟩, hname⟩
    · exact mem_subjectsIn_iff.2 ⟨b, hb, hsubject⟩
    · rw [Bool.and_eq_true, beq_iff_eq, bne_iff_ne, hname]
      exact ⟨hkind, hne⟩

end PrincipalListing

/-! ## Grants of one role -/

namespace Grant

/-- A grant makes its holder a member of a role, as a binding says. -/
structure ComesFrom (g : Grant) (b : Binding) (role : ResourceRef) : Prop where
  names : b.Names g.holder
  entitlement : g.entitlement = member
  target : g.target = role

variable {g : Grant} {ref : ResourceRef} {ns : String} {rules : List PolicyRule}

theorem exists_comesFrom_of_mem_memberships {confined : Bool} {bindings : List Binding}
    (hg : g ∈ (memberships ref confined bindings).grants) :
    ∃ b ∈ bindings, g.ComesFrom b ref ∧ g.scope = b.scope confined := by
  obtain ⟨b, hb, hnames, hentitlement, htarget, hscope⟩ := mem_memberships_iff.1 hg
  exact ⟨b, hb, ⟨hnames, hentitlement, htarget⟩, hscope⟩

/-- What principals hold of a role of a namespace comes from the bindings to it. -/
theorem exists_comesFrom_of_mem {bindings : List Binding} (hkind : ref.kind = .role)
    (hg : g ∈ (memberships ref false bindings).grants ++ (permissions ref ns rules).grants)
    (hheld : g.HeldByPrincipal) : ∃ b ∈ bindings, g.ComesFrom b ref := by
  rcases List.mem_append.1 hg with hmember | hpermission
  · obtain ⟨b, hb, hfrom, -⟩ := exists_comesFrom_of_mem_memberships hmember
    exact ⟨b, hb, hfrom⟩
  · have hholder : ref.kind ∉ Entitlement.principals := by
      rw [hkind]
      decide
    exact absurd hheld (not_heldByPrincipal_of_mem_permissions hholder hpermission)

/-- What principals hold of a role of the cluster comes from the bindings to it, which confine it. -/
theorem exists_comesFrom_of_mem_confined {across : List ClusterRoleBinding}
    {inside : List RoleBinding} (hkind : ref.kind = .clusterRole)
    (hg : g ∈ (memberships ref false (across.map .clusterWide)).grants ++
      (memberships ref true (inside.map .inNamespace)).grants ++ (permissions ref ns rules).grants)
    (hheld : g.HeldByPrincipal) :
    ∃ b ∈ inside.map Binding.inNamespace ++ across.map Binding.clusterWide,
      g.ComesFrom b ref ∧ g.scope = b.scope true := by
  rcases List.mem_append.1 hg with hmember | hpermission
  · rcases List.mem_append.1 hmember with hacross | hinside
    · obtain ⟨b, hb, hfrom, hscope⟩ := exists_comesFrom_of_mem_memberships hacross
      refine ⟨b, List.mem_append_right _ hb, hfrom, ?_⟩
      -- A binding across the cluster has no namespace, so it confines nothing either way.
      obtain ⟨b', -, rfl⟩ := List.mem_map.1 hb
      exact hscope
    · obtain ⟨b, hb, hfrom, hscope⟩ := exists_comesFrom_of_mem_memberships hinside
      exact ⟨b, List.mem_append_left _ hb, hfrom, hscope⟩
  · have hholder : ref.kind ∉ Entitlement.principals := by
      rw [hkind]
      decide
    exact absurd hheld (not_heldByPrincipal_of_mem_permissions hholder hpermission)

/-- The slug of a membership of a role of the cluster tells its scope. -/
theorem ComesFrom.slug_eq {b : Binding} (hfrom : g.ComesFrom b ref)
    (hkind : ref.kind = .clusterRole) : g.slug = scopeSlug g.scope ++ ":" ++ member := by
  have htarget : g.target.kind = .clusterRole := by rw [hfrom.target, hkind]
  rw [slug, if_pos ⟨hfrom.entitlement, htarget⟩]

end Grant

namespace Holdings

variable {h : Holdings} {now : String} {settings : Settings} {s : Snapshot} {g : Grant}
  {ref : ResourceRef} {known : List Grant}

theorem comesFrom_of_mem_grantsOfRole (hkind : ref.kind = .role)
    (hknown : h.grantsOfRole ref = .ok known) (hg : g ∈ known) (hheld : g.HeldByPrincipal) :
    ∃ bindings, h.bindings = .ok bindings ∧ ∃ b ∈ bindings.allBindings, g.ComesFrom b ref := by
  rw [grantsOfRole] at hknown
  split at hknown
  · cases hknown
    cases hg
  · -- The reference, the role and the bindings are read in turn.
    obtain ⟨⟨ns, name⟩, -, hrest⟩ := exists_of_bind_ok hknown
    obtain ⟨role, -, hrest⟩ := exists_of_bind_ok hrest
    obtain ⟨bound, hbound, hpure⟩ := exists_of_bind_ok hrest
    obtain ⟨bindings, hbindings, hbound⟩ := exists_of_bind_ok hbound
    cases hbound
    cases hpure
    obtain ⟨b, hb, hfrom⟩ := Grant.exists_comesFrom_of_mem hkind hg hheld
    refine ⟨bindings, hbindings, b, List.mem_append_left _ ?_, hfrom⟩
    exact (List.filter_sublist.map _).subset hb

theorem comesFrom_of_mem_grantsOfClusterRole (hkind : ref.kind = .clusterRole)
    (hknown : h.grantsOfClusterRole ref = .ok known) (hg : g ∈ known)
    (hheld : g.HeldByPrincipal) :
    ∃ bindings, h.bindings = .ok bindings ∧ ∃ b ∈ bindings.allBindings, g.ComesFrom b ref ∧
      g.scope = b.scope true := by
  rw [grantsOfClusterRole] at hknown
  split at hknown
  · cases hknown
    cases hg
  · obtain ⟨bound, hbound, hrest⟩ := exists_of_bind_ok hknown
    obtain ⟨bindings, hbindings, hbound⟩ := exists_of_bind_ok hbound
    obtain ⟨role, -, hpure⟩ := exists_of_bind_ok hrest
    cases hbound
    cases hpure
    obtain ⟨b, hb, hfrom⟩ := Grant.exists_comesFrom_of_mem_confined hkind hg hheld
    have hsubset : (bindings.confinedTo ref.object).map Binding.inNamespace ++
        (bindings.clusterWideTo ref.object).map Binding.clusterWide ⊆ bindings.allBindings :=
      ((List.filter_sublist.map _).append (List.filter_sublist.map _)).subset
    exact ⟨bindings, hbindings, b, hsubset hb, hfrom⟩

/-! ## Offers -/

/-- Every binding inside a namespace is inside one that is listed. -/
def Housed (h : Holdings) : Prop :=
  ∀ objects b, h.roleBindings = .ok objects → .ok b ∈ objects →
    ∃ listed o, h.objects .nameSpace = .ok listed ∧ .ok o ∈ listed ∧ o.name = b.ns

/-- An entitlement is the one that a grant is of: it is offered on the target, to such holders. -/
structure Offers (e : Entitlement) (g : Grant) : Prop where
  resource : e.resource = g.target
  slug : e.slug = g.slug
  purpose : e.purpose = .assignment
  holder : g.holder.kind ∈ e.grantableTo

theorem offers_membership {r : Resource} {slug displayName description : String}
    (htarget : g.target = r.ref) (hslug : g.slug = slug) (hheld : g.HeldByPrincipal) :
    Offers (.membership r slug displayName description) g where
  resource := htarget.symm
  slug := hslug.symm
  purpose := rfl
  holder := hheld

/-- A role of a namespace offers its one membership. -/
theorem exists_offers_ofRole {r : Resource} (hkind : r.ref.kind = .role) {b : Binding}
    (hmember : g.ComesFrom b r.ref) (hheld : g.HeldByPrincipal) :
    ∃ e ∈ Entitlement.ofRole r, Offers e g := by
  have hslug : g.slug = member := by
    rw [Grant.slug, if_neg, hmember.entitlement]
    rintro ⟨-, htarget⟩
    rw [hmember.target, hkind] at htarget
    cases htarget
  exact ⟨_, List.mem_cons_self, offers_membership hmember.target hslug hheld⟩

/-- A role of the cluster offers membership as far as any binding confines it. -/
theorem exists_offers_ofClusterRole {r : Resource} (hkind : r.ref.kind = .clusterRole)
    {names : List String} {b : Binding} (hmember : g.ComesFrom b r.ref)
    (hscope : g.scope = b.scope true) (hheld : g.HeldByPrincipal)
    (hhoused : b.ns ≠ "" → b.ns ∈ names) :
    ∃ e ∈ Entitlement.ofClusterRole names r, Offers e g := by
  have hslug : g.slug = Grant.scopeSlug (b.scope true) ++ ":" ++ member := by
    rw [hmember.slug_eq hkind, hscope]
  by_cases hns : b.ns = ""
  case pos =>
    have hall : g.slug = "all:" ++ member := by
      rw [hslug, Binding.scope, if_neg (by simp [hns])]
      rfl
    exact ⟨_, List.mem_cons_self, offers_membership hmember.target hall hheld⟩
  case neg =>
    have hwithin : g.slug = b.ns ++ ":" ++ member := by
      rw [hslug, Binding.scope, if_pos ⟨rfl, hns⟩, Grant.scopeSlug, if_neg hns]
    have hmem : Entitlement.within r b.ns ∈ Entitlement.ofClusterRole names r :=
      List.mem_cons_of_mem _ (List.mem_map_of_mem (hhoused hns))
    exact ⟨_, hmem, offers_membership hmember.target hwithin hheld⟩

/-- The namespace of a binding is among the names of namespaces. -/
theorem Housed.ns_mem (hhoused : h.Housed) {bindings : Contents}
    (hbindings : h.bindings = .ok bindings) {names : List String} (hnames : h.namespaces = .ok names)
    {b : Binding} (hb : b ∈ bindings.allBindings) (hns : b.ns ≠ "") : b.ns ∈ names := by
  rcases List.mem_append.1 hb with hinside | hacross
  · obtain ⟨b', hb', rfl⟩ := List.mem_map.1 hinside
    obtain ⟨objects, hobjects, rfl⟩ := namespaces_ok hnames
    obtain ⟨listed, o, hlisted, ho, hname⟩ :=
      hhoused _ b' (bindings_ok hbindings).1 (List.mem_map_of_mem hb')
    rw [hobjects] at hlisted
    cases hlisted
    obtain ⟨o', ho', heq⟩ := List.mem_map.1 ho
    cases heq
    exact List.mem_map.2 ⟨o, ho', hname⟩
  · obtain ⟨b', -, rfl⟩ := List.mem_map.1 hacross
    exact absurd rfl hns

/-! ## Snapshots -/

/-- What principals hold in a snapshot comes from a binding to a listed role, and the role offers
it. -/
theorem exists_offers_of_mem_grants (hs : h.snapshot now settings = .ok s) (hhoused : h.Housed)
    (hg : g ∈ s.grants) (hheld : g.HeldByPrincipal) :
    (∃ r ∈ s.resources, r.ref = g.target) ∧ (∃ e ∈ s.entitlements, Offers e g) ∧
      ∃ bindings, h.bindings = .ok bindings ∧ ∃ b ∈ bindings.allBindings, b.Names g.holder := by
  obtain ⟨c, hc, found, hfound, r, hr, known, hknown, hgKnown⟩ := exists_of_mem_grants hs hg
  obtain ⟨found', hfound', hresources, hentitlements⟩ := exists_of_catalog hs hc
  obtain rfl : found' = found := Except.ok.inj (hfound'.symm.trans hfound)
  have hkind : r.ref.kind = c.kind := kind_of_resources_ok hfound r hr
  obtain ⟨offered, hoffered, hsubset⟩ := hentitlements r hr
  -- Only the two catalogues of roles know grants.
  cases c with
  | inventory i =>
    cases hknown
    cases hgKnown
  | roles =>
    obtain ⟨bindings, hbindings, b, hb, hmember⟩ :=
      comesFrom_of_mem_grantsOfRole hkind hknown hgKnown hheld
    cases hoffered
    obtain ⟨e, he, hoffers⟩ := exists_offers_ofRole hkind hmember hheld
    exact ⟨⟨r, hresources hr, hmember.target.symm⟩, ⟨e, hsubset he, hoffers⟩, bindings, hbindings,
      b, hb, hmember.names⟩
  | clusterRoles cache =>
    obtain ⟨bindings, hbindings, b, hb, hmember, hscope⟩ :=
      comesFrom_of_mem_grantsOfClusterRole hkind hknown hgKnown hheld
    obtain ⟨names, hnames, hpure⟩ := exists_of_bind_ok hoffered
    cases hpure
    obtain ⟨e, he, hoffers⟩ := exists_offers_ofClusterRole hkind hmember hscope hheld
      (hhoused.ns_mem hbindings hnames hb)
    exact ⟨⟨r, hresources hr, hmember.target.symm⟩, ⟨e, hsubset he, hoffers⟩, bindings, hbindings,
      b, hb, hmember.names⟩
  | principals listing =>
    cases hknown
    cases hgKnown

/-- Users and groups that a binding names are listed. -/
theorem exists_resource_of_names (hs : h.snapshot now settings = .ok s) {bindings : Contents}
    (hbindings : h.bindings = .ok bindings) {b : Binding} (hb : b ∈ bindings.allBindings)
    {ref : ResourceRef} (hnames : b.Names ref) {principal : PrincipalKind}
    (hkind : ref.kind = principal.kind) : ∃ r ∈ s.resources, r.ref = ref := by
  obtain ⟨found, hfound, hresources, -⟩ :=
    exists_of_catalog hs (Auditor.principals_mem_freshCatalogs settings principal)
  obtain ⟨bindings', hbindings', hpure⟩ := exists_of_bind_ok hfound
  obtain rfl : bindings' = bindings := Except.ok.inj (hbindings'.symm.trans hbindings)
  cases hpure
  obtain ⟨kind, name⟩ := ref
  obtain rfl : kind = principal.kind := hkind
  have hname : name ∈ PrincipalListing.everyone principal bindings'.roleBindings
      bindings'.clusterRoleBindings :=
    PrincipalListing.mem_everyone_iff.2 (.inr ⟨b, hb, hnames⟩)
  exact ⟨_, hresources (List.mem_map_of_mem hname), rfl⟩

end Holdings

namespace Auditor

open Holdings (Housed Offers)

/-- Where every binding inside a namespace is inside a listed one, nothing that a principal holds in
a snapshot points out of it: the target is a resource of the snapshot, on which the snapshot offers
the very entitlement to holders of that kind, and a user or group is a resource of the snapshot
too. -/
theorem memberships_resolve {h : Holdings} {settings : Settings} {gateway : Gateway} {s : Snapshot}
    {after : Auditor} (hshows : gateway.server.Shows h settings.pageSize) (hhoused : h.Housed)
    (hrun : snapshot (ofGateway settings gateway) = .ok s after) {g : Grant} (hg : g ∈ s.grants)
    (hheld : g.HeldByPrincipal) :
    (∃ r ∈ s.resources, r.ref = g.target) ∧
      (∃ e ∈ s.entitlements, e.resource = g.target ∧ e.slug = g.slug ∧ e.purpose = .assignment ∧
        g.holder.kind ∈ e.grantableTo) ∧
      (g.holder.kind = .user ∨ g.holder.kind = .group → ∃ r ∈ s.resources, r.ref = g.holder) := by
  have hs : h.snapshot gateway.now settings = .ok s := held_of_snapshot_ok hshows hrun
  obtain ⟨htarget, ⟨e, he, hoffers⟩, bindings, hbindings, b, hb, hnames⟩ :=
    Holdings.exists_offers_of_mem_grants hs hhoused hg hheld
  refine ⟨htarget, ⟨e, he, hoffers.resource, hoffers.slug, hoffers.purpose, hoffers.holder⟩, ?_⟩
  rintro (huser | hgroup)
  · have hkind : g.holder.kind = PrincipalKind.user.kind := huser
    exact Holdings.exists_resource_of_names hs hbindings hb hnames hkind
  · have hkind : g.holder.kind = PrincipalKind.group.kind := hgroup
    exact Holdings.exists_resource_of_names hs hbindings hb hnames hkind

/-- In the office, every binding inside a namespace is inside one of the two teams. -/
theorem housed_office : office.Housed := by
  intro objects b hobjects hb
  cases hobjects
  simp only [List.mem_cons, List.not_mem_nil, or_false] at hb
  rcases hb with hb | hb | hb
  · cases hb
    exact ⟨_, _, rfl, List.mem_cons_self, rfl⟩
  · cases hb
    exact ⟨_, _, rfl, List.mem_cons_self, rfl⟩
  · cases hb
    exact ⟨_, _, rfl, List.mem_cons_of_mem _ (List.mem_cons_of_mem _ List.mem_cons_self), rfl⟩

/-- The keeper of the one team, in a snapshot of the office. -/
theorem memberships_resolve_office :
    office.server.Shows office 1 ∧ office.Housed ∧
      ∃ s after, snapshot (ofGateway { pageSize := 1 } office.gateway) = .ok s after ∧
        ∃ g ∈ s.grants, g = ⟨member, ⟨.user, "bob"⟩, ⟨.clusterRole, "keeper"⟩, some "team-b"⟩ ∧
          (∃ r ∈ s.resources, r.ref = ⟨.clusterRole, "keeper"⟩) ∧
          (∃ e ∈ s.entitlements, e.resource = ⟨.clusterRole, "keeper"⟩ ∧
            e.slug = "team-b:member" ∧ e.purpose = .assignment ∧ .user ∈ e.grantableTo) ∧
          ∃ r ∈ s.resources, r.ref = ⟨.user, "bob"⟩ := by
  have hshows : office.server.Shows office 1 := office.shows_server (by decide)
  have hany : ((office.snapshot "" { pageSize := 1 }).toOption.any fun s => s.grants.contains
      ⟨member, ⟨.user, "bob"⟩, ⟨.clusterRole, "keeper"⟩, some "team-b"⟩) = true := by
    decide +kernel
  obtain ⟨s, after, hrun, hcontains⟩ := exists_snapshot (by decide) hany
  have hg : ⟨member, ⟨.user, "bob"⟩, ⟨.clusterRole, "keeper"⟩, some "team-b"⟩ ∈ s.grants := by
    simpa using hcontains
  obtain ⟨htarget, hoffered, hholder⟩ :=
    memberships_resolve hshows housed_office hrun hg (by decide)
  exact ⟨hshows, housed_office, s, after, hrun, _, hg, rfl, htarget, hoffered,
    hholder (.inl rfl)⟩

end Auditor
end ClusterAccess
