/-
  ClusterAccess.Gateway

  The way to a cluster's server. The first call configures the connection; each
  call is noted, may be made to fail, and is then answered by the server. Nothing
  is tried twice. A page with an unreadable object is refused as a whole.
-/
import ClusterAccess.Action
import ClusterAccess.Server

namespace ClusterAccess

/-- The connection to a cluster: the name it goes by, and how its configuration will turn out if it
has not been configured. -/
structure Connection where
  displayName : Json := .text "default"
  pending : Option (Except Fault Json) := none
  deriving Repr

/-- A failure to come: it lets some calls of a name pass, then fails one. -/
structure ArmedFailure where
  call : String
  failure : CallFailure
  after : Nat := 0
  deriving DecidableEq, Repr

/-- What becomes of the failures to come when a call is made. The first one for the call's name
counts the call or fails it. -/
def ArmedFailure.meet (call : String) : List ArmedFailure → Option CallFailure × List ArmedFailure
  | [] => (none, [])
  | f :: rest =>
    if f.call = call then
      if f.after = 0 then (some f.failure, rest)
      else (none, { f with after := f.after - 1 } :: rest)
    else ((meet call rest).1, f :: (meet call rest).2)

/-- The server and everything on the way to it. -/
structure Gateway where
  connection : Connection := {}
  server : Server
  /-- How many items a list call asks for. -/
  pageSize : Nat
  failures : List ArmedFailure := []
  /-- The calls that have been made, in order. -/
  calls : List Call := []
  /-- Seconds on a clock. -/
  clock : Int := 0
  /-- The date and time, in the form of profiles. -/
  now : String := ""

/-- An action that only needs the way to the server. -/
abbrev Fetch := Action Gateway

namespace Gateway

/-! ## Calls -/

/-- Configures the connection unless it has been configured. -/
def connect : Fetch Unit := fun g =>
  match g.connection.pending with
  | none => .ok () g
  | some (.ok name) => .ok () { g with connection := ⟨name, none⟩ }
  | some (.error fault) => .error fault g

/-- Notes a call and lets the failures to come meet it. -/
def note (call : Call) (g : Gateway) : Option CallFailure × Gateway :=
  ((ArmedFailure.meet call.name g.failures).1,
    { g with
      calls := g.calls ++ [call]
      failures := (ArmedFailure.meet call.name g.failures).2 })

/-- Makes a call over a configured connection. -/
def callServer {α : Type} (call : Call) (serve : Server → Except CallFailure α) :
    Fetch α := fun g =>
  match (note call g).1 with
  | some failure => .error (.ofFailure call.about failure) (note call g).2
  | none =>
    match serve g.server with
    | .ok answer => .ok answer (note call g).2
    | .error failure => .error (.ofFailure call.about failure) (note call g).2

/-- Makes a call. -/
def place {α : Type} (call : Call) (serve : Server → Except CallFailure α) : Fetch α := do
  connect
  callServer call serve

/-! ## Lists -/

/-- A place in a list, unless it is the empty text. -/
def placeOf (resume : Option String) : Option String :=
  resume.filter fun place => place ≠ ""

/-- All items of a page, if all can be read. -/
def readAll {α : Type} (items : List (Manifest.Reading α)) : Fetch (List α) :=
  Action.ofExcept .malformed (items.mapM id)

/-- One page of a list, from a place on. -/
def listPage {α : Type} (name : ListName) (serve : Server → ListCall → Answer α)
    (resume : Option String) (limit : Option Int) : Fetch (Page α) := do
  let g ← get
  let asked := (limit.filter (· ≠ 0)).getD g.pageSize
  let call : ListCall := ⟨asked, placeOf resume⟩
  let answer ← place (.list name call) fun u => serve u call
  let items ← readAll answer.items
  pure ⟨items, placeOf answer.next⟩

/-- A page of the roles of all namespaces. -/
def roles (resume : Option String) : Fetch (Page Role) :=
  listPage .roles Server.roles resume none

/-- A page of the roles of the cluster. -/
def clusterRoles (resume : Option String) : Fetch (Page ClusterRole) :=
  listPage .clusterRoles Server.clusterRoles resume none

/-- A page of the bindings of all namespaces. -/
def roleBindings (resume : Option String) : Fetch (Page RoleBinding) :=
  listPage .roleBindings Server.roleBindings resume none

/-- A page of the bindings of the cluster. -/
def clusterRoleBindings (resume : Option String) : Fetch (Page ClusterRoleBinding) :=
  listPage .clusterRoleBindings Server.clusterRoleBindings resume none

/-- A page of plain objects of a kind. -/
def objects (i : Inventory) (resume : Option String) (limit : Option Int) :
    Fetch (Page ClusterObject) :=
  listPage (.objects i) (fun u => u.objects i) resume limit

/-! ## Single objects -/

/-- A role of a namespace by name. -/
def role (ns name : String) : Fetch Role := do
  let answer ← place (.role ns name) fun u => u.role ns name
  Action.ofExcept .malformed answer

/-- A role of the cluster by name. -/
def clusterRole (name : String) : Fetch ClusterRole := do
  let answer ← place (.clusterRole name) fun u => u.clusterRole name
  Action.ofExcept .malformed answer

/-! ## Whole lists -/

/-- Follows a list page by page, behind what has been collected. The first argument bounds the
number of pages. -/
def followFrom {σ α : Type} (fetch : Option String → Action σ (Page α)) :
    Nat → List α → Option String → Action σ (List α)
  | 0, _, _ => throw .endless
  | pages + 1, collected, resume => do
    let page ← fetch resume
    match page.next with
    | none => pure (collected ++ page.items)
    | some place => followFrom fetch pages (collected ++ page.items) (some place)

/-- How many pages of a list are asked for at most: the list has no more, or else goes on until a
failure to come ends it. -/
def patience (g : Gateway) : Nat :=
  g.server.pageLimit + g.failures.foldl (fun n f => n + (f.after + 1)) 0

/-- All items of a list. -/
def drain {α : Type} (fetch : Option String → Fetch (Page α)) : Fetch (List α) := do
  let g ← get
  followFrom fetch g.patience [] none

/-- All role bindings. -/
def allRoleBindings : Fetch (List RoleBinding) :=
  drain roleBindings

/-- All cluster role bindings. -/
def allClusterRoleBindings : Fetch (List ClusterRoleBinding) :=
  drain clusterRoleBindings

/-- The names of all namespaces. -/
def namespaceNames : Fetch (List String) := do
  let objects ← drain fun resume => objects .nameSpace resume none
  pure (objects.map ClusterObject.name)

/-! ## Probing -/

/-- Lists one namespace to see whether the cluster can be reached and lets us in. -/
def probe : Fetch Unit := fun g =>
  match objects .nameSpace none (some 1) g with
  | .ok _ g => .ok () g
  | .error (.server fault) g => .error (.server { fault with probing := true }) g
  | .error fault g => .error fault g

end Gateway

/-! ## States with a gateway -/

/-- A component's own state, with the gateway through which it calls. -/
structure Linked (σ : Type) where
  own : σ
  gateway : Gateway

namespace Linked

/-- A call as an action of a component. -/
def fetch {σ α : Type} (act : Fetch α) : Action (Linked σ) α :=
  act.onPart Linked.gateway fun g l => { l with gateway := g }

/-- An action of a part of a component, which `wrap` puts back. -/
def within {σ τ α : Type} (part : σ) (wrap : σ → τ) (act : Action (Linked σ) α) :
    Action (Linked τ) α :=
  act.onPart (fun l => ⟨part, l.gateway⟩) fun s _ => ⟨wrap s.own, s.gateway⟩

end Linked
end ClusterAccess
