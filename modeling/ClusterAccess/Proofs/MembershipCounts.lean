/-
  ClusterAccess.Proofs.MembershipCounts

  Memberships, counted binding by binding. A snapshot goes from role to role and
  asks for the bindings of each; a reader of the bindings goes from binding to
  binding and asks for the role of each. Both meet every subject of every binding
  exactly once, so no membership is lost on the way, none is made up, and none
  stands twice.
-/
import Mathlib.Data.List.Nodup
import Mathlib.Data.List.Perm.Basic
import ClusterAccess.Proofs.CompiledGrants
import ClusterAccess.Proofs.GraphAnswers
import ClusterAccess.Proofs.Holdings
import ClusterAccess.Proofs.Snapshots

namespace ClusterAccess

/-! ## Pairs from either side -/

section Pairs

variable {α β γ κ : Type}

/-- The pairs that belong together are the same from either side, each as often. -/
theorem flatMap_filter_perm (p : α → β → Bool) (f : α → β → List γ) (xs : List α)
    (ys : List β) :
    (xs.flatMap fun x => (ys.filter (p x)).flatMap (f x)).Perm
      (ys.flatMap fun y => (xs.filter (p · y)).flatMap (f · y)) := by
  induction xs with
  | nil => simp
  | cons x xs ih =>
    -- The pairs of the first element come in front from the one side, and one by one from the other.
    have hsplit : (ys.flatMap fun y => ((x :: xs).filter (p · y)).flatMap (f · y)) =
        ys.flatMap fun y =>
          (if p x y then f x y else []) ++ (xs.filter (p · y)).flatMap (f · y) := by
      refine List.flatMap_congr fun y _ => ?_
      by_cases hp : p x y <;> simp [hp]
    rw [List.flatMap_cons, flatMap_filter_eq, hsplit]
    exact (ih.append_left _).trans (List.flatMap_append_perm _ _ _)

/-- Where no two elements have the same key, those with a key are the one that is found. -/
theorem filter_eq_toList_find? [DecidableEq κ] {key : α → κ} {xs : List α}
    (hnodup : (xs.map key).Nodup) (k : κ) :
    xs.filter (fun x => key x = k) = (xs.find? fun x => key x = k).toList := by
  induction xs with
  | nil => rfl
  | cons x xs ih =>
    rw [List.map_cons, List.nodup_cons] at hnodup
    by_cases hx : key x = k
    case pos =>
      -- The others have other keys.
      have hrest : xs.filter (fun y => key y = k) = [] := by
        refine List.filter_eq_nil_iff.2 fun y hy => ?_
        have hne : key y ≠ k := fun heq => hnodup.1 (hx.trans heq.symm ▸ List.mem_map_of_mem hy)
        simpa using hne
      simp [hx, hrest]
    case neg => simp [hx, ih hnodup.2]

end Pairs

/-! ## Members of one binding -/

/-- The memberships of a role that a binding gives: one for each of its subjects that names a
principal. -/
def Binding.members (role : ResourceRef) (scope : Option String) (b : Binding) : List Grant :=
  b.subjects.filterMap fun s =>
    (s.resolve b.ns).toOption.map fun principal => ⟨member, principal, role, scope⟩

theorem Occurrence.toOption_compile (role : ResourceRef) (confined : Bool) (o : Occurrence) :
    (o.compile role confined).toOption = (o.subject.resolve o.binding.ns).toOption.map
      fun principal => ⟨member, principal, role, o.binding.scope confined⟩ := by
  rw [compile]
  cases o.subject.resolve o.binding.ns <;> rfl

/-- The memberships of a role, binding by binding. -/
theorem Grant.memberships_eq_flatMap (role : ResourceRef) (confined : Bool)
    (bindings : List Binding) :
    (Grant.memberships role confined bindings).grants =
      bindings.flatMap fun b => b.members role (b.scope confined) := by
  simp only [memberships, Binding.occurrences, List.filterMap_map, List.filterMap_flatMap,
    Function.comp_def, Occurrence.toOption_compile, Binding.members]

/-! ## What is held by principals -/

/-- A principal holds a grant. -/
def Grant.HeldByPrincipal (g : Grant) : Prop :=
  g.holder.kind ∈ Entitlement.principals

instance : DecidablePred Grant.HeldByPrincipal :=
  fun g => inferInstanceAs (Decidable (g.holder.kind ∈ Entitlement.principals))

namespace Grant

theorem heldByPrincipal_of_mem_memberships {role : ResourceRef} {confined : Bool}
    {bindings : List Binding} {g : Grant}
    (hg : g ∈ (memberships role confined bindings).grants) : g.HeldByPrincipal := by
  obtain ⟨b, -, hnames, -⟩ := mem_memberships_iff.1 hg
  exact hnames.kind_mem_principals

theorem filter_memberships (role : ResourceRef) (confined : Bool) (bindings : List Binding) :
    (memberships role confined bindings).grants.filter (fun g => g.HeldByPrincipal) =
      (memberships role confined bindings).grants :=
  List.filter_eq_self.2 fun _ hg => decide_eq_true (heldByPrincipal_of_mem_memberships hg)

/-- A role holds its permissions itself. -/
theorem not_heldByPrincipal_of_mem_permissions {holder : ResourceRef} {roleNs : String}
    {rules : List PolicyRule} {g : Grant} (hholder : holder.kind ∉ Entitlement.principals)
    (hg : g ∈ (permissions holder roleNs rules).grants) : ¬ g.HeldByPrincipal := by
  rw [HeldByPrincipal, (mem_permissions_iff.1 hg).1]
  exact hholder

theorem filter_permissions {holder : ResourceRef} (hholder : holder.kind ∉ Entitlement.principals)
    (roleNs : String) (rules : List PolicyRule) :
    (permissions holder roleNs rules).grants.filter (fun g => g.HeldByPrincipal) = [] := by
  refine List.filter_eq_nil_iff.2 fun g hg => ?_
  have hheld : ¬ g.HeldByPrincipal := not_heldByPrincipal_of_mem_permissions hholder hg
  simpa using hheld

end Grant

/-! ## From binding to binding -/

namespace Contents

/-- All bindings. -/
def allBindings (c : Contents) : List Binding :=
  c.roleBindings.map .inNamespace ++ c.clusterRoleBindings.map .clusterWide

/-- The role that a binding refers to, if there is one, and how far membership of it reaches. Inside
a namespace, a role of that namespace is reached by its name, and a role of the cluster as far as
the namespace goes; across the cluster, only a role of the cluster is. -/
def boundTo? (c : Contents) : Binding → Option (ResourceRef × Option String)
  | .inNamespace b =>
    match b.roleRef.refKind with
    | some .role => (c.role? b.ns b.roleRef.name).map fun r => (r.ref, none)
    | some .clusterRole => (c.clusterRole? b.roleRef.name).map fun r => (r.ref, some b.ns)
    | none => none
  | .clusterWide b =>
    match b.roleRef.refKind with
    | some .clusterRole => (c.clusterRole? b.roleRef.name).map fun r => (r.ref, none)
    | _ => none

/-- The membership that a subject of a binding has, if it names a principal and the binding refers
to a role that exists. -/
def membership? (c : Contents) (o : Occurrence) : Option Grant := do
  let (role, scope) ← c.boundTo? o.binding
  let principal ← (o.subject.resolve o.binding.ns).toOption
  pure ⟨member, principal, role, scope⟩

/-- The memberships of the contents: every subject of every binding is taken once. -/
def memberships (c : Contents) : List Grant :=
  (Binding.occurrences c.allBindings).filterMap c.membership?

variable {c : Contents}

/-- The members of the role that a binding refers to. -/
def membersOf (c : Contents) (b : Binding) : List Grant :=
  (c.boundTo? b).toList.flatMap fun bound => b.members bound.1 bound.2

theorem memberships_eq_flatMap (c : Contents) :
    c.memberships = c.allBindings.flatMap c.membersOf := by
  rw [memberships, Binding.occurrences, List.filterMap_flatMap]
  refine List.flatMap_congr fun b _ => ?_
  rw [List.filterMap_map, membersOf]
  cases hbound : c.boundTo? b with
  | none => simp [Function.comp_def, membership?, hbound]
  | some bound =>
    simp only [Function.comp_def, membership?, hbound, Option.toList_some, List.flatMap_singleton,
      Binding.members]
    refine List.filterMap_congr fun s _ => ?_
    cases s.resolve b.ns <;> rfl

/-! ## From role to role -/

/-- The members of roles of namespaces. -/
def roleMembers (c : Contents) : List Grant :=
  c.roles.flatMap fun r =>
    (c.bindingsOfRole (r.object.ns.getD "") r.object.name).flatMap fun b =>
      (Binding.inNamespace b).members r.ref none

/-- The members of roles of the cluster across it. -/
def clusterWideMembers (c : Contents) : List Grant :=
  c.clusterRoles.flatMap fun r =>
    (c.clusterWideTo r.object.name).flatMap fun b => (Binding.clusterWide b).members r.ref none

/-- The members of roles of the cluster inside namespaces. -/
def confinedMembers (c : Contents) : List Grant :=
  c.clusterRoles.flatMap fun r =>
    (c.confinedTo r.object.name).flatMap fun b => (Binding.inNamespace b).members r.ref (some b.ns)

theorem filter_grantsOfRole (c : Contents) (r : Role) :
    (c.grantsOfRole r).filter (fun g => g.HeldByPrincipal) =
      (c.bindingsOfRole (r.object.ns.getD "") r.object.name).flatMap fun b =>
        (Binding.inNamespace b).members r.ref none := by
  have hholder : r.ref.kind ∉ Entitlement.principals := by
    simp [Role.ref, Entitlement.principals]
  rw [grantsOfRole, List.filter_append, Grant.filter_memberships,
    Grant.filter_permissions hholder, List.append_nil, Grant.memberships_eq_flatMap,
    List.flatMap_map]
  rfl

theorem filter_grantsOfClusterRole (hbindings : ∀ b ∈ c.roleBindings, b.ns ≠ "")
    (r : ClusterRole) :
    (c.grantsOfClusterRole r).filter (fun g => g.HeldByPrincipal) =
      ((c.clusterWideTo r.object.name).flatMap fun b => (Binding.clusterWide b).members r.ref none) ++
        (c.confinedTo r.object.name).flatMap fun b =>
          (Binding.inNamespace b).members r.ref (some b.ns) := by
  have hholder : r.ref.kind ∉ Entitlement.principals := by
    simp [ClusterRole.ref, Entitlement.principals]
  have hconfined : (Grant.memberships r.ref true
      ((c.confinedTo r.object.name).map .inNamespace)).grants =
        (c.confinedTo r.object.name).flatMap fun b =>
          (Binding.inNamespace b).members r.ref (some b.ns) := by
    rw [Grant.memberships_eq_flatMap, List.flatMap_map]
    refine List.flatMap_congr fun b hb => ?_
    -- A binding inside a namespace has one, so it confines.
    have hns : b.ns ≠ "" := hbindings b (List.mem_filter.1 hb).1
    rw [Binding.scope, if_pos ⟨rfl, hns⟩]
    rfl
  rw [grantsOfClusterRole, List.filter_append, List.filter_append, Grant.filter_memberships,
    Grant.filter_memberships, Grant.filter_permissions hholder, List.append_nil, hconfined,
    Grant.memberships_eq_flatMap, List.flatMap_map]
  rfl

/-- What principals hold, role by role. -/
theorem filter_grants_perm (hbindings : ∀ b ∈ c.roleBindings, b.ns ≠ "") :
    (c.grants.filter fun g => g.HeldByPrincipal).Perm
      (c.roleMembers ++ (c.clusterWideMembers ++ c.confinedMembers)) := by
  rw [grants, List.filter_append, grantsOfKind, grantsOfKind, List.filter_flatMap,
    List.filter_flatMap]
  simp only [filter_grantsOfRole, filter_grantsOfClusterRole hbindings]
  exact (List.flatMap_append_perm _ _ _).symm.append_left _

/-! ## The one as the other -/

/-- A role is found by the name and the namespace that a binding to it has. -/
theorem RolesNamed.roleMembers_perm (h : c.RolesNamed) :
    c.roleMembers.Perm (c.roleBindings.flatMap fun b =>
      if b.roleRef.refKind = some .role then
        (c.role? b.ns b.roleRef.name).toList.flatMap fun r =>
          (Binding.inNamespace b).members r.ref none
      else []) := by
  refine (flatMap_filter_perm _ _ _ _).trans (.of_eq ?_)
  refine List.flatMap_congr fun b _ => ?_
  split
  next hkind =>
    -- Of the roles, the one that the binding reaches is the one that is found.
    have hfound : c.roles.filter (fun r => b.ns == r.object.ns.getD "" &&
        b.roleRef.names .role r.object.name) = (c.role? b.ns b.roleRef.name).toList := by
      have hkey := filter_eq_toList_find? h.roles (some b.ns, b.roleRef.name)
      simp only [Prod.mk.injEq] at hkey
      rw [role?, ← hkey]
      refine List.filter_congr fun r hr => ?_
      obtain ⟨ns, hns, -⟩ := h.role r hr
      rw [Bool.eq_iff_iff]
      simp [RoleRef.names, hkind, hns, @eq_comm _ b.ns, @eq_comm _ b.roleRef.name]
    rw [hfound]
  next hkind =>
    have hnone : c.roles.filter (fun r => b.ns == r.object.ns.getD "" &&
        b.roleRef.names .role r.object.name) = [] :=
      List.filter_eq_nil_iff.2 fun r _ => by simp [RoleRef.names, hkind]
    rw [hnone, List.flatMap_nil]

/-- A role of the cluster is found by the name that a binding to it has. -/
theorem RolesNamed.filter_clusterRoles (h : c.RolesNamed) (ref : RoleRef) :
    c.clusterRoles.filter (fun r => ref.names .clusterRole r.object.name) =
      if ref.refKind = some .clusterRole then (c.clusterRole? ref.name).toList else [] := by
  split
  next hkind =>
    rw [clusterRole?, ← filter_eq_toList_find? h.clusterRoles ref.name]
    refine List.filter_congr fun r _ => ?_
    rw [Bool.eq_iff_iff]
    simp [RoleRef.names, hkind, @eq_comm _ ref.name]
  next hkind => exact List.filter_eq_nil_iff.2 fun r _ => by simp [RoleRef.names, hkind]

theorem RolesNamed.clusterWideMembers_perm (h : c.RolesNamed) :
    c.clusterWideMembers.Perm (c.clusterRoleBindings.flatMap fun b =>
      c.membersOf (.clusterWide b)) := by
  refine (flatMap_filter_perm _ _ _ _).trans (.of_eq ?_)
  refine List.flatMap_congr fun b _ => ?_
  rw [h.filter_clusterRoles, membersOf, boundTo?]
  split
  next hkind =>
    rw [hkind]
    cases c.clusterRole? b.roleRef.name <;> rfl
  next hkind =>
    split
    next hcluster => exact absurd hcluster hkind
    next => rfl

theorem RolesNamed.confinedMembers_perm (h : c.RolesNamed) :
    c.confinedMembers.Perm (c.roleBindings.flatMap fun b =>
      if b.roleRef.refKind = some .clusterRole then
        (c.clusterRole? b.roleRef.name).toList.flatMap fun r =>
          (Binding.inNamespace b).members r.ref (some b.ns)
      else []) := by
  refine (flatMap_filter_perm _ _ _ _).trans (.of_eq ?_)
  refine List.flatMap_congr fun b _ => ?_
  rw [h.filter_clusterRoles]
  split
  next => rfl
  next => rfl

/-- A binding inside a namespace refers to a role of the namespace or to one of the cluster, but not
to both. -/
theorem membersOf_inNamespace (c : Contents) (b : RoleBinding) :
    c.membersOf (.inNamespace b) =
      (if b.roleRef.refKind = some .role then
        (c.role? b.ns b.roleRef.name).toList.flatMap fun r =>
          (Binding.inNamespace b).members r.ref none
      else []) ++
      if b.roleRef.refKind = some .clusterRole then
        (c.clusterRole? b.roleRef.name).toList.flatMap fun r =>
          (Binding.inNamespace b).members r.ref (some b.ns)
      else [] := by
  rw [membersOf, boundTo?]
  split
  next hkind =>
    rw [if_pos hkind, if_neg (by simp [hkind])]
    cases c.role? b.ns b.roleRef.name <;> simp
  next hkind =>
    rw [if_neg (by simp [hkind]), if_pos hkind]
    cases c.clusterRole? b.roleRef.name <;> simp
  next hkind => simp [hkind]

/-- What principals hold is the same from role to role and from binding to binding. -/
theorem RolesNamed.filter_grants_perm_memberships (h : c.RolesNamed)
    (hbindings : ∀ b ∈ c.roleBindings, b.ns ≠ "") :
    (c.grants.filter fun g => g.HeldByPrincipal).Perm c.memberships := by
  -- Inside namespaces, the two sorts of roles are met by turns from binding to binding.
  have hinside : (c.roleMembers ++ c.confinedMembers).Perm
      (c.roleBindings.flatMap fun b => c.membersOf (.inNamespace b)) := by
    simp only [membersOf_inNamespace]
    exact (h.roleMembers_perm.append h.confinedMembers_perm).trans
      (List.flatMap_append_perm _ _ _)
  have hswap : (c.roleMembers ++ (c.clusterWideMembers ++ c.confinedMembers)).Perm
      (c.roleMembers ++ c.confinedMembers ++ c.clusterWideMembers) := by
    rw [List.append_assoc]
    exact List.perm_append_comm.append_left _
  have hall : c.memberships = (c.roleBindings.flatMap fun b => c.membersOf (.inNamespace b)) ++
      c.clusterRoleBindings.flatMap fun b => c.membersOf (.clusterWide b) := by
    rw [memberships_eq_flatMap, allBindings, List.flatMap_append, List.flatMap_map,
      List.flatMap_map]
  rw [hall]
  exact (filter_grants_perm hbindings).trans
    (hswap.trans (hinside.append h.clusterWideMembers_perm))

end Contents

/-! ## Snapshots -/

namespace Auditor

/-- A new auditor of a server that holds these contents takes a snapshot, and what principals hold in
it are the memberships of the contents: each as often as a subject of a binding has it, and nothing
else. -/
theorem snapshot_memberships_perm (settings : Settings) (gateway : Gateway) (contents : Contents)
    (hserved : gateway.server.Delivers settings.pageSize contents)
    (hfailures : gateway.failures = [])
    (hopens : ∀ fault, gateway.connection.pending ≠ some (.error fault))
    (hnamed : contents.RolesNamed) (hbindings : ∀ b ∈ contents.roleBindings, b.ns ≠ "") :
    ∃ s after, snapshot (ofGateway settings gateway) = .ok s after ∧
      (s.grants.filter fun g => g.HeldByPrincipal).Perm contents.memberships := by
  obtain ⟨s, after, hrun, -, hgrants⟩ :=
    yields_snapshot hserved hnamed _ (serving_ofGateway hfailures hopens)
  refine ⟨s, after, hrun, ?_⟩
  rw [hgrants]
  exact hnamed.filter_grants_perm_memberships hbindings

/-- A yard with two roles of one name. One of its bindings names a user twice and somebody without a
name; others go astray, since the role is in another namespace or in none. -/
def yard : Contents where
  roles := [
    { object := { kind := "Role", name := "reader", ns := some "dock" }, rules := [] },
    { object := { kind := "Role", name := "reader", ns := some "shed" }, rules := [] }]
  clusterRoles := [{
    object := { kind := "ClusterRole", name := "keeper" }
    rules := [{ verbs := ["get"], apiGroups := [""], resources := ["secrets"] }] }]
  roleBindings := [
    ⟨"readers", "dock", ⟨"Role", "reader", ""⟩,
      [⟨"User", "alice", "", ""⟩, ⟨"User", "", "", ""⟩, ⟨"User", "alice", "", ""⟩]⟩,
    ⟨"keepers", "shed", ⟨"ClusterRole", "keeper", ""⟩, [⟨"ServiceAccount", "bot", "", ""⟩]⟩,
    ⟨"strangers", "mole", ⟨"Role", "reader", ""⟩, [⟨"User", "bob", "", ""⟩]⟩]
  clusterRoleBindings := [
    ⟨"keepers", ⟨"ClusterRole", "keeper", ""⟩, [⟨"Group", "ops", "", ""⟩]⟩,
    ⟨"readers", ⟨"Role", "reader", ""⟩, [⟨"User", "bob", "", ""⟩]⟩]

theorem rolesNamed_yard : yard.RolesNamed where
  role := by
    intro r hr
    simp only [yard, List.mem_cons, List.not_mem_nil, or_false] at hr
    rcases hr with rfl | rfl
    · exact ⟨"dock", rfl, by decide, by decide, by decide, by decide, by decide⟩
    · exact ⟨"shed", rfl, by decide, by decide, by decide, by decide, by decide⟩
  roles := by decide
  clusterRole := by
    intro r hr
    rw [List.mem_singleton.1 hr]
    decide
  clusterRoles := by decide

/-- The members in the yard, from pages of two items: the user twice, and nobody who went astray. -/
theorem snapshot_memberships_perm_yard :
    yard.holdings.server.Delivers 2 yard ∧ yard.RolesNamed ∧
      (∀ b ∈ yard.roleBindings, b.ns ≠ "") ∧
      ∃ s after,
        snapshot (ofGateway { pageSize := 2 } { server := yard.holdings.server, pageSize := 2 }) =
          .ok s after ∧
        (s.grants.filter fun g => g.HeldByPrincipal).Perm [
          ⟨member, ⟨.user, "alice"⟩, ⟨.role, "dock/reader"⟩, none⟩,
          ⟨member, ⟨.user, "alice"⟩, ⟨.role, "dock/reader"⟩, none⟩,
          ⟨member, ⟨.serviceAccount, "shed/bot"⟩, ⟨.clusterRole, "keeper"⟩, some "shed"⟩,
          ⟨member, ⟨.group, "ops"⟩, ⟨.clusterRole, "keeper"⟩, none⟩] := by
  have hserved : yard.holdings.server.Delivers 2 yard := yard.delivers_server (by decide)
  have hbindings : ∀ b ∈ yard.roleBindings, b.ns ≠ "" := by decide
  refine ⟨hserved, rolesNamed_yard, hbindings, ?_⟩
  exact snapshot_memberships_perm { pageSize := 2 }
    { server := yard.holdings.server, pageSize := 2 } yard hserved rfl (by simp) rolesNamed_yard
    hbindings

end Auditor
end ClusterAccess
