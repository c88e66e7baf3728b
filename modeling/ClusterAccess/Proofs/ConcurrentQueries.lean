/-
  ClusterAccess.Proofs.ConcurrentQueries

  Many queries of one binding cache at once. Between two of its list calls a query
  can be overtaken by any other; what it does without waiting is one step. A query
  that finds no load that counts waits for a lock, looks again when it has it, and
  then loads all bindings page by page; whoever ends in any way gives the lock back.
  Pages and failures come as they may, and a query can be cancelled at any time.
-/
import ClusterAccess.BindingCache

namespace ClusterAccess

/-! ## What has been read -/

/-- Pages in the order in which they were read, each with the place that it was asked for from. -/
abbrev Transcript (α : Type) := List (Option String × Page α)

namespace Transcript

variable {α : Type}

/-- All items that were read. -/
def items (t : Transcript α) : List α :=
  t.flatMap fun entry => entry.2.items

/-- The pages were read one behind the other from the beginning of the list, and the list goes on
    at a place. -/
inductive Reaches : Transcript α → Option String → Prop
  | start : Reaches [] none
  | next {t : Transcript α} {place : Option String} {page : Page α} {behind : String} :
    Reaches t place → Gateway.placeOf page.next = some behind →
      Reaches (t ++ [(place, page)]) (some behind)

/-- The pages were read one behind the other from the beginning of the list to its end. -/
def IsWhole (t : Transcript α) : Prop :=
  ∃ front place page, t = front ++ [(place, page)] ∧ Reaches front place ∧
    Gateway.placeOf page.next = none

end Transcript

/-! ## Queries -/

namespace BindingCache

/-- What a cache is asked for. -/
inductive Query
  | role (ns name : String)
  | clusterRole (name : String)

/-- What it answers. -/
inductive Answer
  | role (bindings : List RoleBinding)
  | clusterRole (confined : List RoleBinding) (clusterWide : List ClusterRoleBinding)
  deriving DecidableEq

/-- The answer from the bindings that a cache holds. -/
def answer (c : BindingCache) : Query → Answer
  | .role ns name => .role (c.ofRole ns name)
  | .clusterRole name => .clusterRole (c.confinedTo name) (c.clusterWideTo name)

/-- A query by itself. -/
def ask : Query → Action (Linked BindingCache) Answer
  | .role ns name => do
    let bindings ← matchingRole ns name
    pure (.role bindings)
  | .clusterRole name => do
    let (confined, clusterWide) ← matchingClusterRole name
    pure (.clusterRole confined clusterWide)

/-- A load that was published: what was read of either list. -/
structure Load where
  roleBindings : Transcript RoleBinding
  clusterRoleBindings : Transcript ClusterRoleBinding

namespace Load

/-- Both lists were read to their ends. -/
def IsWhole (l : Load) : Prop :=
  l.roleBindings.IsWhole ∧ l.clusterRoleBindings.IsWhole

/-- The answer from the two lists of a load. -/
def answer (l : Load) (q : Query) : Answer :=
  BindingCache.answer { ttl := 0
                        roleBindings := l.roleBindings.items
                        clusterRoleBindings := l.clusterRoleBindings.items } q

end Load

/-- How far a query has come. -/
inductive Stage
  | new
  /-- It waits for the lock. -/
  | waiting
  /-- It has asked for the page of role bindings at a place, behind those read. -/
  | readingRoleBindings (read : Transcript RoleBinding) (place : Option String)
  /-- It has read all role bindings, and asked for the page of cluster role bindings at a place. -/
  | readingClusterRoleBindings (roleBindings : Transcript RoleBinding)
      (read : Transcript ClusterRoleBinding) (place : Option String)
  | answered (answer : Answer)
  | failed (fault : Fault)
  | cancelled

namespace Stage

/-- Whether a load is under way. -/
def isLoading : Stage → Bool
  | .readingRoleBindings _ _ => true
  | .readingClusterRoleBindings _ _ _ => true
  | _ => false

/-- Whether a query has come to an end. -/
def isOver : Stage → Bool
  | .answered _ => true
  | .failed _ => true
  | .cancelled => true
  | _ => false

end Stage

/-! ## Steps -/

/-- A cache with all queries to it, which are numbered. -/
structure Room where
  cache : BindingCache
  clock : Int
  /-- The query that has the lock. -/
  holder : Option Nat := none
  stage : Nat → Stage := fun _ => .new
  /-- The list calls that have been made. -/
  calls : List (BindingPhase × Option String) := []
  /-- The loads that have been published. -/
  loads : List Load := []

/-- What can happen to one of the queries, or to the clock. -/
inductive Event
  | begin (t : Nat)
  /-- A waiting query gets the lock. -/
  | enter (t : Nat)
  /-- The call for role bindings is answered. -/
  | roleBindings (t : Nat) (page : Page RoleBinding)
  /-- The call for cluster role bindings is answered. -/
  | clusterRoleBindings (t : Nat) (page : Page ClusterRoleBinding)
  /-- The call fails. -/
  | fail (t : Nat) (fault : Fault)
  | cancel (t : Nat)
  | tick (now : Int)

namespace Room

def move (s : Room) (t : Nat) (stage : Stage) : Room :=
  { s with stage := fun u => if u = t then stage else s.stage u }

/-- A query makes a list call. -/
def call (s : Room) (phase : BindingPhase) (place : Option String) : Room :=
  { s with calls := s.calls ++ [(phase, place)] }

/-- A query gives the lock back if it has it. -/
def release (s : Room) (t : Nat) : Room :=
  { s with holder := if s.holder = some t then none else s.holder }

/-- A query that has found no load that counts takes the lock and begins to load. -/
def beginLoad (s : Room) (t : Nat) : Room :=
  ({ s with cache := s.cache.drop, holder := some t }.move t (.readingRoleBindings [] none)).call
    .roleBindings none

/-- A query publishes a load, gives the lock back, and answers. -/
def finishLoad (s : Room) (query : Nat → Query) (t : Nat) (load : Load) : Room :=
  let cache := s.cache.publish s.clock load.roleBindings.items load.clusterRoleBindings.items
  ({ s with cache, loads := s.loads ++ [load] }.release t).move t
    (.answered (cache.answer (query t)))

/-- What happens, if it can happen. -/
def step (query : Nat → Query) (s : Room) : Event → Option Room
  | .begin t =>
    match s.stage t with
    | .new =>
      if s.cache.isFresh s.clock then some (s.move t (.answered (s.cache.answer (query t))))
      else some (s.move t .waiting)
    | _ => none
  | .enter t =>
    match s.stage t, s.holder with
    | .waiting, none =>
      -- Another query may have loaded while this one waited.
      if s.cache.isFresh s.clock then some (s.move t (.answered (s.cache.answer (query t))))
      else some (s.beginLoad t)
    | _, _ => none
  | .roleBindings t page =>
    match s.stage t with
    | .readingRoleBindings read place =>
      -- A page says where the list goes on, if it does; the next call is made without waiting.
      match Gateway.placeOf page.next with
      | some behind =>
        some ((s.move t (.readingRoleBindings (read ++ [(place, page)]) (some behind))).call
          .roleBindings (some behind))
      | none =>
        some ((s.move t (.readingClusterRoleBindings (read ++ [(place, page)]) [] none)).call
          .clusterRoleBindings none)
    | _ => none
  | .clusterRoleBindings t page =>
    match s.stage t with
    | .readingClusterRoleBindings roleBindings read place =>
      match Gateway.placeOf page.next with
      | some behind =>
        some ((s.move t (.readingClusterRoleBindings roleBindings (read ++ [(place, page)])
          (some behind))).call .clusterRoleBindings (some behind))
      | none => some (s.finishLoad query t ⟨roleBindings, read ++ [(place, page)]⟩)
    | _ => none
  | .fail t fault =>
    if (s.stage t).isLoading then some ((s.release t).move t (.failed fault)) else none
  | .cancel t =>
    if (s.stage t).isOver then none else some ((s.release t).move t .cancelled)
  | .tick now => some { s with clock := now }

/-- What happens one after the other. -/
def run (query : Nat → Query) (s : Room) : List Event → Option Room
  | [] => some s
  | e :: es =>
    match s.step query e with
    | some next => next.run query es
    | none => none

end Room
end BindingCache
end ClusterAccess
