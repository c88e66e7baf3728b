/-
  ClusterAccess.Proofs.CatalogPages

  What the actions of a catalogue leave as it is, whether they are answered or
  fail: the gateway stays steady, and the catalogue lists the same kind. How a
  catalogue lists and what it grants goes by that kind.
-/
import ClusterAccess.Proofs.Agreement
import ClusterAccess.Proofs.Listings

namespace ClusterAccess

open ClusterAccess.Action Gateway

/-! ## What stays -/

namespace Linked

variable {σ α : Type} {R : Linked σ → Linked σ → Prop}

theorem keeps_fetch {act : Fetch α} (h : IsSteady act)
    (hR : ∀ l g, Steady l.gateway g → R l { l with gateway := g }) : Keeps R (Linked.fetch act) :=
  h.onPart hR

end Linked

namespace NamespaceCache

/-- The names of namespaces are read through a gateway that stays steady. -/
theorem keeps_names : Keeps (fun l l' : Linked NamespaceCache => Steady l.gateway l'.gateway)
    names := by
  refine Keeps.bind Steady.trans (keeps_get fun l => Steady.refl l.gateway) fun l => ?_
  cases l.own.current? l.gateway.clock with
  | some held => exact keeps_pure (fun l => Steady.refl l.gateway) held
  | none =>
    have hdrain : IsSteady Gateway.namespaceNames :=
      (isSteady_drain fun resume => isSteady_listPage _ _ resume none).bind
        fun objects => isSteady_pure _
    refine Keeps.bind Steady.trans (Linked.keeps_fetch hdrain fun _ _ hg => hg) fun read => ?_
    refine Keeps.bind Steady.trans (keeps_modify fun l => Steady.refl l.gateway) fun _ => ?_
    exact keeps_pure (fun l => Steady.refl l.gateway) read

end NamespaceCache

namespace PrincipalListing

/-- The gateway is steady, and the same principals are listed. -/
structure Stays (l l' : Linked PrincipalListing) : Prop where
  gateway : Steady l.gateway l'.gateway
  principal_eq : l'.own.principal = l.own.principal

theorem Stays.refl (l : Linked PrincipalListing) : Stays l l := ⟨.refl _, rfl⟩

theorem Stays.trans {l l' l'' : Linked PrincipalListing} (h : Stays l l') (h' : Stays l' l'') :
    Stays l l'' :=
  ⟨h.gateway.trans h'.gateway, h'.principal_eq.trans h.principal_eq⟩

theorem keeps_give (names : List String) : Keeps Stays (give names) :=
  fun l => ⟨.refl l.gateway, rfl⟩

theorem isSteady_subjectsPage (resume : Option String) (phase : BindingPhase) :
    IsSteady (subjectsPage resume phase) := by
  cases phase with
  | roleBindings =>
    exact (isSteady_listPage .roleBindings _ resume none).bind fun _ => isSteady_pure _
  | clusterRoleBindings =>
    exact (isSteady_listPage .clusterRoleBindings _ resume none).bind fun _ => isSteady_pure _

theorem keeps_list (t : PageToken) : Keeps Stays (list t) := by
  refine Keeps.bind Stays.trans (keeps_get Stays.refl) fun l => ?_
  refine Keeps.bind Stays.trans (keeps_give _) fun builtIn => ?_
  refine Keeps.bind Stays.trans (Linked.keeps_fetch (isSteady_subjectsPage _ _)
    fun l g hg => ⟨hg, rfl⟩) fun page => ?_
  refine Keeps.bind Stays.trans (keeps_give _) fun named => ?_
  exact keeps_pure Stays.refl _

end PrincipalListing

namespace Catalog

/-- The gateway is steady, and the catalogue lists the same kind. -/
structure Stays (l l' : Linked Catalog) : Prop where
  gateway : Steady l.gateway l'.gateway
  kind_eq : l'.own.kind = l.own.kind

theorem Stays.refl (l : Linked Catalog) : Stays l l := ⟨.refl _, rfl⟩

theorem Stays.trans {l l' l'' : Linked Catalog} (h : Stays l l') (h' : Stays l' l'') :
    Stays l l'' :=
  ⟨h.gateway.trans h'.gateway, h'.kind_eq.trans h.kind_eq⟩

theorem keeps_fetch {α : Type} {act : Fetch α} (h : IsSteady act) :
    Keeps Stays (Linked.fetch act : Action (Linked Catalog) α) :=
  Linked.keeps_fetch h fun _ _ hg => ⟨hg, rfl⟩

theorem keeps_listPaged {α : Type} (kind : ResourceKind) (name : ListName)
    (serve : Server → ListCall → Answer α) (toResource : α → Except RefFault Resource)
    (t : PageToken) :
    Keeps Stays (Linked.fetch (listPaged kind (fun resume => listPage name serve resume none)
      toResource t) : Action (Linked Catalog) (Page Resource)) :=
  keeps_fetch ((isSteady_listPage name serve t.resume none).bind fun _ =>
    isSteady_get.bind fun _ => isSteady_pure _)

/-- However a page is asked for, it leaves the gateway steady and the kind as it is. -/
theorem keeps_list (token : String) : Keeps Stays (list token) := by
  refine Keeps.bind Stays.trans (keeps_ofExcept Stays.refl _ _) fun t => ?_
  refine keeps_get_bind fun l => ?_
  obtain ⟨own, gateway⟩ := l
  cases own with
  | inventory i => exact keeps_listPaged _ _ _ _ t _
  | roles => exact keeps_listPaged _ _ _ _ t _
  | clusterRoles cache => exact keeps_listPaged _ _ _ _ t _
  | principals listing =>
    exact lands_onPart (PrincipalListing.keeps_list t ⟨listing, gateway⟩) fun s hs =>
      ⟨hs.gateway, congrArg PrincipalKind.kind hs.principal_eq⟩

theorem keeps_namespaces : Keeps Stays namespaces := by
  refine keeps_get_bind fun l => ?_
  obtain ⟨own, gateway⟩ := l
  cases own with
  | clusterRoles cache =>
    exact lands_onPart (NamespaceCache.keeps_names ⟨cache, gateway⟩) fun s hs => ⟨hs, rfl⟩
  | _ => exact Stays.refl _

/-- Entitlements leave the gateway steady and the kind as it is. -/
theorem keeps_entitlements (r : Resource) : Keeps Stays (entitlements r) := by
  refine keeps_get_bind fun l => ?_
  obtain ⟨own, gateway⟩ := l
  cases own with
  | clusterRoles cache =>
    have hkeeps : Keeps Stays (do
        let names ← namespaces
        pure (Entitlement.ofClusterRole names r)) :=
      Keeps.bind Stays.trans keeps_namespaces fun _ => keeps_pure Stays.refl _
    exact hkeeps _
  | _ => exact Stays.refl _

/-! ## By kind -/

variable {c : Catalog}

theorem eq_roles_of_kind (h : c.kind = .role) : c = .roles := by
  cases c with
  | inventory i => cases i <;> cases h
  | roles => rfl
  | clusterRoles cache => cases h
  | principals listing =>
    obtain ⟨principal, seen⟩ := listing
    cases principal <;> cases h

theorem exists_clusterRoles_of_kind (h : c.kind = .clusterRole) :
    ∃ cache, c = .clusterRoles cache := by
  cases c with
  | inventory i => cases i <;> cases h
  | roles => cases h
  | clusterRoles cache => exact ⟨cache, rfl⟩
  | principals listing =>
    obtain ⟨principal, seen⟩ := listing
    cases principal <;> cases h

theorem exists_principals_of_kind (h : c.kind = .user ∨ c.kind = .group) :
    ∃ listing, c = .principals listing := by
  cases c with
  | inventory i => cases i <;> rcases h with h | h <;> cases h
  | roles => rcases h with h | h <;> cases h
  | clusterRoles cache => rcases h with h | h <;> cases h
  | principals listing => exact ⟨listing, rfl⟩

/-- Only roles have grants. -/
theorem grants_of_kind_ne (hrole : c.kind ≠ .role) (hcluster : c.kind ≠ .clusterRole)
    (r : Resource) : c.grants r = pure [] := by
  cases c with
  | inventory i => rfl
  | roles => exact absurd rfl hrole
  | clusterRoles cache => exact absurd rfl hcluster
  | principals listing => rfl

end Catalog
end ClusterAccess
