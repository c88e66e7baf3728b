/-
  ClusterAccess.Proofs.StaticServer

  A server that serves fixed contents, and what is read from it over a gateway
  with no failure to come: every list as a whole, and every role by its name.
-/
import ClusterAccess.Proofs.Actions

namespace ClusterAccess

/-! ## Contents -/

/-- What a cluster holds, list by list. -/
structure Contents where
  roles : List Role := []
  clusterRoles : List ClusterRole := []
  roleBindings : List RoleBinding := []
  clusterRoleBindings : List ClusterRoleBinding := []
  objects : Inventory → List ClusterObject := fun _ => []

namespace Contents

/-- The role of a namespace with a name. -/
def role? (c : Contents) (ns name : String) : Option Role :=
  c.roles.find? fun r => r.object.ns = some ns ∧ r.object.name = name

/-- The role of the cluster with a name. -/
def clusterRole? (c : Contents) (name : String) : Option ClusterRole :=
  c.clusterRoles.find? fun r => r.object.name = name

end Contents

namespace Server

variable {α : Type}

/-- From a place on, a list is served in this many pages of readable items. -/
inductive Serves (serve : ListCall → Answer α) (limit : Int) :
    Nat → Option String → List α → Prop
  | last {place next : Option String} {items : List α} :
    serve ⟨limit, place⟩ = .ok ⟨items.map .ok, next⟩ → Gateway.placeOf next = none →
      Serves serve limit 1 place items
  | more {n : Nat} {place next : Option String} {behind : String} {items rest : List α} :
    serve ⟨limit, place⟩ = .ok ⟨items.map .ok, next⟩ → Gateway.placeOf next = some behind →
      Serves serve limit n (some behind) rest → Serves serve limit (n + 1) place (items ++ rest)

/-- A list is served from its beginning in no more pages than the server promises. -/
def ServesWhole (server : Server) (size : Nat) (serve : Server → ListCall → Answer α)
    (items : List α) : Prop :=
  ∃ n ≤ server.pageLimit, Serves (serve server) size n none items

/-- A server holds these contents and serves them in pages of one size. -/
structure Delivers (server : Server) (size : Nat) (c : Contents) : Prop where
  roles : server.ServesWhole size Server.roles c.roles
  clusterRoles : server.ServesWhole size Server.clusterRoles c.clusterRoles
  roleBindings : server.ServesWhole size Server.roleBindings c.roleBindings
  clusterRoleBindings : server.ServesWhole size Server.clusterRoleBindings c.clusterRoleBindings
  objects : ∀ i, server.ServesWhole size (fun u => u.objects i) (c.objects i)
  role : ∀ {ns name : String} {r : Role},
    c.role? ns name = some r → server.role ns name = .ok (.ok r)
  clusterRole : ∀ {name : String} {r : ClusterRole},
    c.clusterRole? name = some r → server.clusterRole name = .ok (.ok r)

end Server

/-! ## Over a gateway -/

namespace Gateway

/-- Calls come through to a server: the connection is configured or can be, and no failure is to
    come. -/
structure Reaches (server : Server) (size : Nat) (g : Gateway) : Prop where
  server_eq : g.server = server
  pageSize_eq : g.pageSize = size
  failures_eq : g.failures = []
  opens : ∀ fault, g.connection.pending ≠ some (.error fault)

variable {α : Type} {server : Server} {size : Nat} {g : Gateway}

open ClusterAccess.Action

theorem yields_connect : Yields (Reaches server size) connect fun _ => True := by
  intro g hg
  unfold connect
  cases hpending : g.connection.pending with
  | none => exact ⟨(), g, rfl, hg, trivial⟩
  | some outcome =>
    cases outcome with
    | error fault => exact absurd hpending (hg.opens fault)
    | ok name =>
      refine ⟨(), _, rfl, ⟨hg.server_eq, hg.pageSize_eq, hg.failures_eq, ?_⟩, trivial⟩
      intro fault
      simp

theorem yields_callServer {call : Call} {serve : Server → Except CallFailure α} {answer : α}
    (h : serve server = .ok answer) :
    Yields (Reaches server size) (callServer call serve) (· = answer) := by
  intro g hg
  -- The call is noted, and meets no failure on its way.
  have hmeet : ArmedFailure.meet call.name g.failures = (none, []) := by
    rw [hg.failures_eq]
    rfl
  refine ⟨answer, (note call g).2, ?_, ⟨hg.server_eq, hg.pageSize_eq, ?_, hg.opens⟩, rfl⟩
  · rw [callServer, hg.server_eq, h]
    simp only [note, hmeet]
  · simp only [note, hmeet]

theorem yields_place {call : Call} {serve : Server → Except CallFailure α} {answer : α}
    (h : serve server = .ok answer) :
    Yields (Reaches server size) (place call serve) (· = answer) :=
  yields_connect.bind fun _ _ => yields_callServer h

/-- A page of readable items is read. -/
theorem mapM_ok (items : List α) :
    (items.map Except.ok).mapM id = (.ok items : Manifest.Reading _) := by
  induction items with
  | nil => rfl
  | cons x xs ih =>
    rw [List.map_cons, List.mapM_cons, ih]
    rfl

/-- A page is read as it is served. -/
theorem yields_listPage (name : ListName) {serve : Server → ListCall → Answer α}
    {place next : Option String} {items : List α} (hplace : placeOf place = place)
    (h : serve server ⟨size, place⟩ = .ok ⟨items.map .ok, next⟩) :
    Yields (Reaches server size) (listPage name serve place none) (· = ⟨items, placeOf next⟩) := by
  refine yields_get.bind fun g hg => ?_
  simp only [Option.filter_none, Option.getD_none, hg.pageSize_eq, hplace]
  refine (yields_place h).bind fun answer hanswer => ?_
  rw [hanswer, readAll, mapM_ok]
  refine (yields_pure (Q := (· = items)) rfl).bind fun read hread => ?_
  rw [hread]
  exact yields_pure rfl

/-- The pages of a list are read as they are served, from a place on. -/
theorem pages_of_serves (name : ListName) {serve : Server → ListCall → Answer α} {n : Nat}
    {place : Option String} {items : List α} (h : Server.Serves (serve server) size n place items)
    (hplace : placeOf place = place) (hg : Reaches server size g) :
    ∃ g', Pages (fun resume => listPage name serve resume none) n place g items g' ∧
      Reaches server size g' := by
  -- By the pages of the server; the gateway reaches it again behind each of them.
  induction h generalizing g with
  | last hserve hnext =>
    obtain ⟨page, g', hrun, hg', rfl⟩ := yields_listPage name hplace hserve g hg
    rw [hnext] at hrun
    exact ⟨g', .last hrun, hg'⟩
  | more hserve hnext _ ih =>
    obtain ⟨page, g', hrun, hg', rfl⟩ := yields_listPage name hplace hserve g hg
    obtain ⟨g'', hpages, hg''⟩ := ih (by rw [← hnext, placeOf_placeOf]) hg'
    rw [hnext] at hrun
    exact ⟨g'', .more hrun hpages, hg''⟩

/-- A list is drained as it is served. -/
theorem yields_drain {name : ListName} {serve : Server → ListCall → Answer α} {items : List α}
    (h : server.ServesWhole size serve items) :
    Yields (Reaches server size) (drain fun resume => listPage name serve resume none)
      (· = items) := by
  intro g hg
  obtain ⟨n, hn, hserves⟩ := h
  obtain ⟨g', hpages, hg'⟩ := pages_of_serves name hserves rfl hg
  refine ⟨items, g', ?_, hg', rfl⟩
  rw [drain_apply, followFrom_of_pages hpages [] ?_, List.nil_append]
  rw [patience, hg.server_eq]
  omega

theorem yields_allRoleBindings {bindings : List RoleBinding}
    (h : server.ServesWhole size Server.roleBindings bindings) :
    Yields (Reaches server size) allRoleBindings (· = bindings) :=
  yields_drain h

theorem yields_allClusterRoleBindings {bindings : List ClusterRoleBinding}
    (h : server.ServesWhole size Server.clusterRoleBindings bindings) :
    Yields (Reaches server size) allClusterRoleBindings (· = bindings) :=
  yields_drain h

theorem yields_namespaceNames {objects : List ClusterObject}
    (h : server.ServesWhole size (fun u => u.objects .nameSpace) objects) :
    Yields (Reaches server size) namespaceNames (· = objects.map ClusterObject.name) := by
  refine (yields_drain h).bind fun read hread => ?_
  rw [hread]
  exact yields_pure rfl

theorem yields_role {ns name : String} {r : Role} (h : server.role ns name = .ok (.ok r)) :
    Yields (Reaches server size) (role ns name) (· = r) := by
  refine (yields_place h).bind fun answer hanswer => ?_
  rw [hanswer]
  exact yields_pure rfl

theorem yields_clusterRole {name : String} {r : ClusterRole}
    (h : server.clusterRole name = .ok (.ok r)) :
    Yields (Reaches server size) (clusterRole name) (· = r) := by
  refine (yields_place h).bind fun answer hanswer => ?_
  rw [hanswer]
  exact yields_pure rfl

end Gateway
end ClusterAccess
