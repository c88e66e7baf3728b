/-
  ClusterAccess.Proofs.RefreshedGraph

  What a refreshed graph reflects. The roles are read anew, and so are the bindings
  if the last load of them, whatever it was made for, no longer counts; as long as
  it counts, the bindings are still those that it has read. Either way the graph
  gives the answers of the graph that a new auditor makes of such a cluster.
-/
import ClusterAccess.Auditor
import ClusterAccess.Proofs.LoadLedger

namespace ClusterAccess

open ClusterAccess.Action Gateway

namespace Gateway

/-- The gateway after incidents. -/
def undergoAll (g : Gateway) (incidents : List Incident) : Gateway :=
  incidents.foldl undergo g

end Gateway

/-- A server with the bindings of another one. -/
def Server.withBindingsOf (server other : Server) : Server :=
  { server with
    roleBindings := other.roleBindings
    clusterRoleBindings := other.clusterRoleBindings }

/-! ## Whole snapshots -/

namespace Auditor

open BindingCache (Stocked HasOnly)
open Catalog (SameRoles)

variable {P : Linked BindingCache → Prop} {settings : Settings}

/-- An auditor with these settings, whose bindings and gateway have `P`. -/
def Working (P : Linked BindingCache → Prop) (settings : Settings) (a : Auditor) : Prop :=
  P ⟨a.bindings, a.gateway⟩ ∧ a.settings = settings

variable {server server' : Server} {size : Nat} {now now' : Int}
  {roleBindings : List RoleBinding} {clusterRoleBindings : List ClusterRoleBinding}

/-- Two auditors find the same grants if they have the same bindings in stock, and their clusters
the same roles. -/
theorem agree_snapshot (hsame : SameRoles server server') :
    Agree (fun a a' =>
        Working (Stocked server size now roleBindings clusterRoleBindings) settings a ∧
          Working (Stocked server' size now' roleBindings clusterRoleBindings) settings a')
      snapshot snapshot fun s s' => s.grants = s'.grants := by
  refine agree_get.bind fun a a' ha => ?_
  have hcatalogs : (freshCatalogs a.settings).map id = (freshCatalogs a'.settings).map id := by
    rw [ha.1.2, ha.2.2]
  have htour : ∀ c c' : Catalog, id c = id c' → Agree (fun a a' =>
        Working (Stocked server size now roleBindings clusterRoleBindings) settings a ∧
          Working (Stocked server' size now' roleBindings clusterRoleBindings) settings a')
      (tour c Tour.snapshot) (tour c' Tour.snapshot) fun s s' => s.grants = s'.grants := by
    rintro c _ rfl
    have hagree : Agree (Tour.BothThrough c.kind server server' size now now' roleBindings
        clusterRoleBindings) Tour.snapshot Tour.snapshot _ := Tour.agree_snapshot hsame
    exact hagree.onPart (fun _ _ ha => ⟨⟨ha.1.1, rfl⟩, ha.2.1, rfl⟩)
      fun _ _ _ _ ht ha => ⟨⟨ht.1.1, ha.1.2⟩, ht.2.1, ha.2.2⟩
  refine (Agree.mapM hcatalogs htour).bind fun parts parts' hparts => agree_pure ?_
  simp only [Snapshot.join, List.flatMap_def, hparts]

/-- A graph that is not there yet, or is to be refreshed, is that of a new snapshot. -/
theorem accessGraph_ok {refresh : Bool} {a a' : Auditor} {graph : AccessGraph}
    (hnew : refresh ∨ a.graph = none) (h : accessGraph refresh a = .ok graph a') :
    ∃ s mid, snapshot a = .ok s mid ∧ graph = AccessGraph.ofGrants s.grants ∧
      a' = { mid with graph := some graph } := by
  have htaken : (snapshot >>= fun s => do
      modify fun a => { a with graph := some (AccessGraph.ofGrants s.grants) }
      pure (AccessGraph.ofGrants s.grants)) a = .ok graph a' := by
    obtain ⟨_, _, hget, hrest⟩ := bind_ok h
    cases hget
    cases hgraph : a.graph with
    | none => simpa only [hgraph] using hrest
    | some held =>
      -- A graph that is there was not asked for, so it is refreshed.
      rw [hgraph] at hnew
      obtain rfl : refresh = true := by simpa using hnew
      simpa only [hgraph] using hrest
  obtain ⟨s, mid, hs, hrest⟩ := bind_ok htaken
  cases hrest
  exact ⟨s, mid, hs, rfl, rfl⟩

/-- Two graphs give the same answers. -/
def SameAnswers (graph graph' : AccessGraph) : Prop :=
  ∀ (principal : ResourceRef) (verb : String) (target : ResourceRef) (groups : List ResourceRef),
    graph.can principal verb target groups = graph'.can principal verb target groups ∧
      graph.whoCan verb target = graph'.whoCan verb target

/-- Two new graphs give the same answers if their auditors have the same bindings in stock, and
their clusters the same roles. -/
theorem sameAnswers_of_stocked (hsame : SameRoles server server') {a a' b b' : Auditor}
    {graph graph' : AccessGraph} {refresh refresh' : Bool}
    (ha : Working (Stocked server size now roleBindings clusterRoleBindings) settings a)
    (hb : Working (Stocked server' size now' roleBindings clusterRoleBindings) settings b)
    (hnew : refresh ∨ a.graph = none) (hnew' : refresh' ∨ b.graph = none)
    (hgraph : accessGraph refresh a = .ok graph a')
    (hgraph' : accessGraph refresh' b = .ok graph' b') : SameAnswers graph graph' := by
  obtain ⟨s, mid, hs, rfl, -⟩ := accessGraph_ok hnew hgraph
  obtain ⟨s', mid', hs', rfl, -⟩ := accessGraph_ok hnew' hgraph'
  obtain ⟨-, hgrants⟩ := agree_snapshot hsame a b s s' mid mid' ⟨ha, hb⟩ hs hs'
  rw [hgrants]
  exact fun principal verb target groups => ⟨rfl, rfl⟩

/-! ## Refreshing -/

/-- A graph is refreshed, whatever the auditor was asked before, for a first graph or for anything
else, and however the cluster changed, time passed and calls failed in between. If no load of
bindings counts, the refreshed graph gives the answers that a new auditor gives of the cluster as it
is now. As long as the last load counts, it gives those of the cluster as it is now, but with the
bindings of the cluster that was loaded from. -/
theorem refreshed_sameAnswers (settings : Settings) (g g' : Gateway) (turns : List Session.Turn)
    {refreshed new : AccessGraph} {a b : Auditor}
    (hrefresh : accessGraph true ((Session.start settings g).run turns).auditor = .ok refreshed a)
    (hnew : accessGraph false (ofGateway settings g') = .ok new b) :
    let s := (Session.start settings g).run turns
    (s.current? = none → g'.server = s.auditor.gateway.server → SameAnswers refreshed new) ∧
      ∀ load, s.current? = some load →
        g'.server = s.auditor.gateway.server.withBindingsOf load.server →
          SameAnswers refreshed new := by
  intro s
  have h : s.Sound settings := (Session.sound_start settings g).run turns
  constructor
  · intro hnone hserver
    obtain ⟨roleBindings, clusterRoleBindings, hnow⟩ :=
      BindingCache.exists_hasOnly s.auditor.gateway.server settings.pageSize
    have hstale : s.auditor.bindings.isFresh s.auditor.gateway.clock = false := by
      rw [h.isFresh_eq, hnone]
      rfl
    exact sameAnswers_of_stocked ⟨rfl, rfl, rfl, rfl⟩
      ⟨hnow.stocked hstale rfl h.pageSize_eq, h.settings_eq⟩ ⟨hnow.stocked rfl hserver rfl, rfl⟩
      (.inl rfl) (.inr rfl) hrefresh hnew
  · intro load hsome hserver
    have hfresh : s.auditor.bindings.isFresh s.auditor.gateway.clock := by
      rw [h.isFresh_eq, hsome]
      rfl
    -- The new auditor loads what the cache holds, and its cluster has the same roles.
    have hnow : HasOnly g'.server settings.pageSize s.auditor.bindings.roleBindings
        s.auditor.bindings.clusterRoleBindings := by
      rw [hserver]
      exact h.hasOnly hsome
    have hroles : SameRoles s.auditor.gateway.server g'.server := by
      rw [hserver]
      exact ⟨rfl, rfl, rfl, rfl⟩
    have hheld := BindingCache.stocked_of_isFresh ⟨s.auditor.bindings, s.auditor.gateway⟩ hfresh
      h.pageSize_eq
    exact sameAnswers_of_stocked hroles ⟨hheld, h.settings_eq⟩
      ⟨hnow.stocked rfl rfl rfl, rfl⟩ (.inl rfl) (.inr rfl) hrefresh hnew

/-! ## A binding that is taken away -/

/-- A role of the cluster whose members may read pods. -/
def podReader : ClusterRole where
  object := { kind := "ClusterRole", name := "reader" }
  rules := [{ verbs := ["get"], apiGroups := [""], resources := ["pods"] }]

/-- The binding that makes one user a member. -/
def aliceReads : ClusterRoleBinding :=
  ⟨"readers", ⟨"ClusterRole", "reader", ""⟩, [⟨"User", "alice", "", ""⟩]⟩

/-- A server with that role, and with some bindings. -/
def podReaderServer (bindings : List ClusterRoleBinding) : Server where
  roles _ := .ok {}
  clusterRoles _ := .ok { items := [.ok podReader] }
  roleBindings _ := .ok {}
  clusterRoleBindings _ := .ok { items := bindings.map .ok }
  objects _ _ := .ok {}
  role _ _ := .error (.api (some 404) none)
  clusterRole _ := .ok (.ok podReader)
  pageLimit := 1

/-- A gateway to that server. -/
def podReaderGateway (bindings : List ClusterRoleBinding) : Gateway where
  server := podReaderServer bindings
  pageSize := 500

/-- The binding is taken away, and some seconds pass. -/
def revoked (seconds : Nat) : List Incident :=
  [.change (podReaderServer []), .wait seconds]

/-- The refreshed graph of an auditor, and the graph of a new one with another gateway. -/
def renewal (settings : Settings) (a : Auditor) (g : Gateway) :
    Option (AccessGraph × AccessGraph) :=
  match accessGraph true a, accessGraph false (ofGateway settings g) with
  | .ok refreshed _, .ok new _ => some (refreshed, new)
  | _, _ => none

theorem exists_of_renewal {settings : Settings} {a : Auditor} {g : Gateway}
    {refreshed new : AccessGraph} (h : renewal settings a g = some (refreshed, new)) :
    ∃ a' b, accessGraph true a = .ok refreshed a' ∧
      accessGraph false (ofGateway settings g) = .ok new b := by
  rw [renewal] at h
  split at h
  next refreshed₁ a' new₁ b hrefresh hnew =>
    cases h
    exact ⟨a', b, hrefresh, hnew⟩
  next => cases h

/-- Whether the user may read a pod. -/
def aliceMayRead (graph : AccessGraph) : Bool :=
  graph.can ⟨.user, "alice"⟩ "get" ⟨.pod, "team-a/web"⟩ []

/-- A minute after a first graph, the grants of the role are asked for; then the binding is taken
away, and some seconds pass. -/
def asked (seconds : Nat) : List Session.Turn :=
  [.request (.graph false), .outside (.wait 60),
    .request (.grants "cluster_role"
      { ref := ⟨.clusterRole, "reader"⟩, displayName := "reader" })] ++
    (revoked seconds).map .outside

/-- Where a load counts for a minute, half a minute after the question the refreshed graph still
shows the binding, and after a whole minute it shows that the binding is gone. -/
theorem refreshed_sameAnswers_minute :
    let settings : Settings := { bindingTtl := 60 }
    let start := Session.start settings (podReaderGateway [aliceReads])
    (∃ load refreshed a new b, (start.run (asked 30)).current? = some load ∧ load.time = 60 ∧
      accessGraph true (start.run (asked 30)).auditor = .ok refreshed a ∧
      accessGraph false (ofGateway settings
        { server := (podReaderServer []).withBindingsOf load.server, pageSize := 500 }) =
          .ok new b ∧ SameAnswers refreshed new ∧ aliceMayRead refreshed = true) ∧
      ∃ refreshed a new b, (start.run (asked 60)).current? = none ∧
        accessGraph true (start.run (asked 60)).auditor = .ok refreshed a ∧
        accessGraph false (ofGateway settings (podReaderGateway [])) = .ok new b ∧
        SameAnswers refreshed new ∧ aliceMayRead refreshed = false := by
  intro settings start
  constructor
  · have hrun : ((start.run (asked 30)).current?.bind fun load =>
        (renewal settings (start.run (asked 30)).auditor
          { server := (podReaderServer []).withBindingsOf load.server, pageSize := 500 }).map
            fun x => (load.time, aliceMayRead x.1)) = some (60, true) := by decide +kernel
    obtain ⟨load, hload, hrun⟩ := Option.bind_eq_some_iff.1 hrun
    obtain ⟨⟨refreshed, new⟩, hrenewal, hseen⟩ := Option.map_eq_some_iff.1 hrun
    obtain ⟨htime, hallowed⟩ := Prod.mk.inj hseen
    obtain ⟨a, b, hrefresh, hnew⟩ := exists_of_renewal hrenewal
    obtain ⟨-, hsame⟩ := refreshed_sameAnswers settings (podReaderGateway [aliceReads])
      { server := (podReaderServer []).withBindingsOf load.server, pageSize := 500 } (asked 30)
      hrefresh hnew
    exact ⟨load, refreshed, a, new, b, hload, htime, hrefresh, hnew, hsame load hload rfl,
      hallowed⟩
  · have hrun : ((start.run (asked 60)).current?.isNone, (renewal settings
        (start.run (asked 60)).auditor (podReaderGateway [])).map fun x => aliceMayRead x.1) =
          (true, some false) := by decide +kernel
    obtain ⟨hnone, hrun⟩ := Prod.mk.inj hrun
    rw [Option.isNone_iff_eq_none] at hnone
    obtain ⟨⟨refreshed, new⟩, hrenewal, hrefused⟩ := Option.map_eq_some_iff.1 hrun
    obtain ⟨a, b, hrefresh, hnew⟩ := exists_of_renewal hrenewal
    obtain ⟨hsame, -⟩ := refreshed_sameAnswers settings (podReaderGateway [aliceReads])
      (podReaderGateway []) (asked 60) hrefresh hnew
    exact ⟨refreshed, a, new, b, hnone, hrefresh, hnew, hsame hnone rfl, hrefused⟩

/-- Where a load counts for ever, the refreshed graph still lets the user read when the binding is
gone, and the graph of a new auditor does not. -/
theorem not_sameAnswers_revoked :
    ∃ first a refreshed a' new b,
      accessGraph false (ofGateway { bindingTtl := 0 } (podReaderGateway [aliceReads])) =
          .ok first a ∧
        accessGraph true { a with gateway := a.gateway.undergoAll (revoked 60) } =
          .ok refreshed a' ∧
        accessGraph false (ofGateway { bindingTtl := 0 } (podReaderGateway [])) = .ok new b ∧
        ¬ SameAnswers refreshed new := by
  have hrun : (match accessGraph false (ofGateway { bindingTtl := 0 }
        (podReaderGateway [aliceReads])) with
      | .ok _ a => (renewal { bindingTtl := 0 }
          { a with gateway := a.gateway.undergoAll (revoked 60) } (podReaderGateway [])).map
            fun x => (aliceMayRead x.1, aliceMayRead x.2)
      | .error _ _ => none) = some (true, false) := by decide +kernel
  split at hrun
  next first a hfirst =>
    obtain ⟨⟨refreshed, new⟩, hrenewal, hseen⟩ := Option.map_eq_some_iff.1 hrun
    obtain ⟨hallowed, hrefused⟩ := Prod.mk.inj hseen
    obtain ⟨a', b, hrefresh, hnew⟩ := exists_of_renewal hrenewal
    refine ⟨first, a, refreshed, a', new, b, hfirst, hrefresh, hnew, fun hsame => ?_⟩
    have hcan := (hsame ⟨.user, "alice"⟩ "get" ⟨.pod, "team-a/web"⟩ []).1
    exact absurd (hallowed.symm.trans (hcan.trans hrefused)) (by decide)
  next => cases hrun

end Auditor
end ClusterAccess
