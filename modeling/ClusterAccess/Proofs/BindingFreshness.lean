/-
  ClusterAccess.Proofs.BindingFreshness

  The binding cache over time: queries, time that passes, a cluster that changes
  and calls that fail, in any order. While one of the loads published so far
  counts, a query answers from the last of them and makes no call. Otherwise it
  reads both lists from their first pages; it publishes what it has read or, where
  any page fails, nothing, and then the next query loads again.
-/
import ClusterAccess.Proofs.GatewayCalls
import ClusterAccess.Proofs.QueryAlone
import ClusterAccess.Proofs.StaticServer

namespace ClusterAccess.BindingCache

open Gateway (ReadBy BrokenOff Steady Incident callsFor)

/-! ## Reading both lists -/

/-- These calls read both lists of bindings from their first pages to their ends. -/
def FullRead (server : Server) (limit : Int) (calls : List Call) (roleBindings : List RoleBinding)
    (clusterRoleBindings : List ClusterRoleBinding) : Prop :=
  ∃ first second, ReadBy server.roleBindings limit first none roleBindings ∧
    ReadBy server.clusterRoleBindings limit second none clusterRoleBindings ∧
      calls = callsFor .roleBindings first ++ callsFor .clusterRoleBindings second

/-- These calls ask for both lists of bindings from their first pages on, and give up inside of the
first list or, behind its end, inside of the second. -/
def PartRead (server : Server) (limit : Int) (calls : List Call) : Prop :=
  (∃ first, BrokenOff server.roleBindings limit first none ∧
      calls = callsFor .roleBindings first) ∨
    ∃ first second roleBindings, ReadBy server.roleBindings limit first none roleBindings ∧
      BrokenOff server.clusterRoleBindings limit second none ∧
        calls = callsFor .roleBindings first ++ callsFor .clusterRoleBindings second

/-- The two lists that a server has are the same however often they are read. -/
theorem FullRead.unique {server : Server} {limit : Int} {calls calls' : List Call}
    {roleBindings roleBindings' : List RoleBinding}
    {clusterRoleBindings clusterRoleBindings' : List ClusterRoleBinding}
    (h : FullRead server limit calls roleBindings clusterRoleBindings)
    (h' : FullRead server limit calls' roleBindings' clusterRoleBindings') :
    roleBindings = roleBindings' ∧ clusterRoleBindings = clusterRoleBindings' := by
  obtain ⟨first, second, hroles, hclusters, -⟩ := h
  obtain ⟨first', second', hroles', hclusters', -⟩ := h'
  exact ⟨hroles.unique hroles', hclusters.unique hclusters'⟩

/-- Whoever reads both lists makes calls. -/
theorem FullRead.calls_ne_nil {server : Server} {limit : Int} {calls : List Call}
    {roleBindings : List RoleBinding} {clusterRoleBindings : List ClusterRoleBinding}
    (h : FullRead server limit calls roleBindings clusterRoleBindings) : calls ≠ [] := by
  obtain ⟨first, second, hroles, -, rfl⟩ := h
  cases hroles <;> simp [callsFor]

/-- The end of a load: both lists have been read and are published with the time, or a part of them
has been read, and all that is left is that the last load no longer counts. -/
def EndsLoad (l : Linked BindingCache) : EStateM.Result Fault (Linked BindingCache) Unit → Prop
  | .ok _ l' => Steady l.gateway l'.gateway ∧ ∃ calls roleBindings clusterRoleBindings,
      FullRead l.gateway.server l.gateway.pageSize calls roleBindings clusterRoleBindings ∧
        l'.gateway.calls = l.gateway.calls ++ calls ∧
          l'.own = l.own.publish l.gateway.clock roleBindings clusterRoleBindings
  | .error _ l' => Steady l.gateway l'.gateway ∧ ∃ calls,
      PartRead l.gateway.server l.gateway.pageSize calls ∧
        l'.gateway.calls = l.gateway.calls ++ calls ∧ l'.own = l.own.drop

theorem endsLoad_load (l : Linked BindingCache) : EndsLoad l (load l) := by
  rw [load_apply]
  have hfirst := Gateway.endsRead_allRoleBindings l.gateway
  cases hroles : Gateway.allRoleBindings l.gateway with
  | error e g =>
    rw [hroles] at hfirst
    obtain ⟨hsteady, first, hbroken, hcalls⟩ := hfirst
    exact ⟨hsteady, _, .inl ⟨first, hbroken, rfl⟩, hcalls, rfl⟩
  | ok roleBindings g =>
    rw [hroles] at hfirst
    obtain ⟨hsteady, first, hread, hcalls⟩ := hfirst
    -- The second list is asked of the server that the first one was read from.
    have hsecond := Gateway.endsRead_allClusterRoleBindings g
    simp only
    cases hclusters : Gateway.allClusterRoleBindings g with
    | error e g' =>
      rw [hclusters, Gateway.EndsRead, hsteady.server_eq, hsteady.pageSize_eq] at hsecond
      obtain ⟨hsteady', second, hbroken, hcalls'⟩ := hsecond
      refine ⟨hsteady.trans hsteady', _, .inr ⟨first, second, _, hread, hbroken, rfl⟩, ?_, rfl⟩
      rw [hcalls', hcalls, List.append_assoc]
    | ok clusterRoleBindings g' =>
      rw [hclusters, Gateway.EndsRead, hsteady.server_eq, hsteady.pageSize_eq] at hsecond
      obtain ⟨hsteady', second, hread', hcalls'⟩ := hsecond
      have hboth := hsteady.trans hsteady'
      refine ⟨hboth, _, _, _, ⟨first, second, hread, hread', rfl⟩, ?_, ?_⟩
      · rw [hcalls', hcalls, List.append_assoc]
      · rw [hboth.clock_eq]
        rfl

/-! ## Publications -/

/-- A load that was published: when, and what was read. -/
structure Publication where
  time : Int
  roleBindings : List RoleBinding
  clusterRoleBindings : List ClusterRoleBinding
  deriving DecidableEq

namespace Publication

/-- Whether a publication counts at a time, where each one does for so many seconds; zero is for
ever. -/
def Counts (p : Publication) (ttl : Nat) (now : Int) : Prop :=
  ttl = 0 ∨ now - p.time < ttl

instance (p : Publication) (ttl : Nat) (now : Int) : Decidable (p.Counts ttl now) :=
  inferInstanceAs (Decidable (_ ∨ _))

/-- The answer from what was published: the bindings that refer to the role by its kind and its
name, for a role of a namespace those of its own namespace. -/
def answer (p : Publication) : Query → Answer
  | .role ns name => .role (p.roleBindings.filter fun b =>
      b.ns == ns && (b.roleRef.kind == "Role" && b.roleRef.name == name))
  | .clusterRole name => .clusterRole
      (p.roleBindings.filter fun b =>
        b.roleRef.kind == "ClusterRole" && b.roleRef.name == name)
      (p.clusterRoleBindings.filter fun b =>
        b.roleRef.kind == "ClusterRole" && b.roleRef.name == name)

theorem Counts.of_le {p p' : Publication} {ttl : Nat} {now now' : Int} (h : p.Counts ttl now)
    (htime : p.time ≤ p'.time) (hnow : now' ≤ now) : p'.Counts ttl now' := by
  rcases h with hzero | hyoung
  · exact .inl hzero
  · exact .inr (by omega)

end Publication

/-- A reference names a role by the word for the role's kind and by the role's name. -/
theorem names_eq (kind : RoleRefKind) (name : String) (r : RoleRef) :
    r.names kind name = (r.kind == kind.name && r.name == name) := by
  rw [RoleRef.names, RoleRef.refKind]
  congr 1
  unfold RoleRefKind.ofName?
  split
  next h =>
    rw [h]
    cases kind <;> rfl
  next h =>
    rw [h]
    cases kind <;> rfl
  next hrole hcluster =>
    cases kind
    · exact (beq_eq_false_iff_ne.2 hrole).symm
    · exact (beq_eq_false_iff_ne.2 hcluster).symm

/-- A cache holds what was published last. -/
structure HoldsLast (c : BindingCache) (p : Publication) : Prop where
  roleBindings_eq : c.roleBindings = p.roleBindings
  clusterRoleBindings_eq : c.clusterRoleBindings = p.clusterRoleBindings
  loadedAt_eq : c.loadedAt = p.time

/-- A cache answers from the publication that it holds. -/
theorem HoldsLast.answer_eq {c : BindingCache} {p : Publication} (h : c.HoldsLast p) (q : Query) :
    c.answer q = p.answer q := by
  cases q with
  | role ns name =>
    simp only [answer, ofRole, Publication.answer, h.roleBindings_eq, names_eq, RoleRefKind.name]
  | clusterRole name =>
    simp only [answer, confinedTo, clusterWideTo, Publication.answer, h.roleBindings_eq,
      h.clusterRoleBindings_eq, names_eq, RoleRefKind.name]

/-! ## Histories -/

/-- One thing that happens: a query, or an incident outside of the cache. -/
inductive Turn
  | ask (q : Query)
  | outside (i : Incident)

/-- A cache with its gateway, and what it has published so far. -/
structure History where
  state : Linked BindingCache
  published : List Publication := []

namespace History

/-- A cache that nobody has asked yet. -/
def start (ttl : Nat) (g : Gateway) : History where
  state := ⟨{ ttl }, g⟩

/-- What is there after one more turn. A query that was answered behind calls of its own has
published a load. -/
def step (h : History) : Turn → History
  | .outside i => { h with state := { h.state with gateway := h.state.gateway.undergo i } }
  | .ask q =>
    match BindingCache.ask q h.state with
    | .error _ s => { h with state := s }
    | .ok _ s =>
      if s.gateway.calls = h.state.gateway.calls then { h with state := s }
      else { state := s, published := h.published ++
        [⟨h.state.gateway.clock, s.own.roleBindings, s.own.clusterRoleBindings⟩] }

/-- What is there after these turns. -/
def run (h : History) (turns : List Turn) : History :=
  turns.foldl step h

/-- Whether one of the loads published so far counts now. -/
def Counts (h : History) (ttl : Nat) : Prop :=
  ∃ p ∈ h.published, p.Counts ttl h.state.gateway.clock

instance (h : History) (ttl : Nat) : Decidable (h.Counts ttl) :=
  inferInstanceAs (Decidable (∃ p ∈ h.published, p.Counts ttl h.state.gateway.clock))

/-- A query loads first: it publishes both lists as the server has them now and answers from them,
or it fails, and neither what is held has changed by it nor does any load count until the next
query. -/
def Loads (h : History) (ttl : Nat) (q : Query) : Prop :=
  match BindingCache.ask q h.state with
  | .ok a s => ∃ calls p,
      FullRead h.state.gateway.server h.state.gateway.pageSize calls p.roleBindings
          p.clusterRoleBindings ∧
        p.time = h.state.gateway.clock ∧ a = p.answer q ∧
        s.gateway.calls = h.state.gateway.calls ++ calls ∧
        s.own.loadCount = h.state.own.loadCount + 1 ∧
        (h.step (.ask q)).published = h.published ++ [p]
  | .error _ s => ∃ calls,
      PartRead h.state.gateway.server h.state.gateway.pageSize calls ∧
        s.gateway.calls = h.state.gateway.calls ++ calls ∧
        s.own.loadCount = h.state.own.loadCount ∧
        s.own.roleBindings = h.state.own.roleBindings ∧
        s.own.clusterRoleBindings = h.state.own.clusterRoleBindings ∧
        ∀ incidents : List Incident,
          ¬ ((h.step (.ask q)).run (incidents.map .outside)).Counts ttl

/-! ## What is known of a history -/

/-- The cache holds the newest publication while its last load counts as loaded; otherwise no
publication counts any more. -/
structure Sound (ttl : Nat) (h : History) : Prop where
  ttl_eq : h.state.own.ttl = ttl
  past : ∀ p ∈ h.published, p.time ≤ h.state.gateway.clock
  loaded : h.state.own.loaded → ∃ front last, h.published = front ++ [last] ∧
    h.state.own.HoldsLast last ∧ ∀ p ∈ front, p.time ≤ last.time
  unloaded : h.state.own.loaded = false → ¬ h.Counts ttl

variable {ttl : Nat} {h : History}

theorem sound_start (ttl : Nat) (g : Gateway) : Sound ttl (start ttl g) where
  ttl_eq := rfl
  past _ hp := absurd hp List.not_mem_nil
  loaded hloaded := absurd hloaded Bool.false_ne_true
  unloaded _ hcounts := by
    obtain ⟨p, hp, -⟩ := hcounts
    exact absurd hp List.not_mem_nil

/-- While the cache has a load, the newest publication is the last one. -/
theorem Sound.loaded_of_counts (h' : Sound ttl h) (hcounts : h.Counts ttl) :
    h.state.own.loaded := by
  cases hloaded : h.state.own.loaded with
  | true => rfl
  | false => exact absurd hcounts (h'.unloaded hloaded)

/-- The cache takes its last load to count if and only if one of those published does. -/
theorem Sound.isFresh_iff (h' : Sound ttl h) :
    h.state.own.isFresh h.state.gateway.clock ↔ h.Counts ttl := by
  rw [BindingCache.isFresh_iff, h'.ttl_eq]
  constructor
  · rintro ⟨hloaded, hyoung⟩
    obtain ⟨front, last, hpublished, hlast, -⟩ := h'.loaded hloaded
    refine ⟨last, by simp [hpublished], hyoung.imp_right fun hyoung => ?_⟩
    rw [hlast.loadedAt_eq] at hyoung
    omega
  · intro hcounts
    have hloaded := h'.loaded_of_counts hcounts
    obtain ⟨front, last, hpublished, hlast, hnewest⟩ := h'.loaded hloaded
    obtain ⟨p, hp, hcounts⟩ := hcounts
    -- No publication is newer than the last one, so that one counts as well.
    have htime : p.time ≤ last.time := by
      rw [hpublished, List.mem_append, List.mem_singleton] at hp
      rcases hp with hp | rfl
      · exact hnewest p hp
      · exact Int.le_refl _
    refine ⟨hloaded, (hcounts.of_le htime (Int.le_refl _)).imp_right fun hyoung => ?_⟩
    rw [hlast.loadedAt_eq]
    omega

/-! ## One turn -/

/-- What is published stays published outside of queries, and counts no longer than before. -/
theorem counts_of_outside {i : Incident} (hcounts : (h.step (.outside i)).Counts ttl) :
    h.Counts ttl := by
  obtain ⟨p, hp, hcounts⟩ := hcounts
  exact ⟨p, hp, hcounts.of_le (Int.le_refl _) (Gateway.clock_le_undergo _ i)⟩

theorem counts_of_run_outside {incidents : List Incident}
    (hcounts : (h.run (incidents.map .outside)).Counts ttl) : h.Counts ttl := by
  induction incidents generalizing h with
  | nil => exact hcounts
  | cons i incidents ih => exact counts_of_outside (ih hcounts)

theorem Sound.outside (h' : Sound ttl h) (i : Incident) : Sound ttl (h.step (.outside i)) where
  ttl_eq := h'.ttl_eq
  past p hp := Int.le_trans (h'.past p hp) (Gateway.clock_le_undergo _ i)
  loaded := h'.loaded
  unloaded hunloaded hcounts := h'.unloaded hunloaded (counts_of_outside hcounts)

/-- While a load counts, a query answers from the last one that was published. -/
theorem Sound.ask_of_counts (h' : Sound ttl h) (hcounts : h.Counts ttl) (q : Query) :
    ∃ p, h.published.getLast? = some p ∧
      BindingCache.ask q h.state = .ok (p.answer q) h.state := by
  obtain ⟨front, last, hpublished, hlast, -⟩ := h'.loaded (h'.loaded_of_counts hcounts)
  refine ⟨last, by simp [hpublished], ?_⟩
  rw [Room.ask_apply, ensureLoaded_of_isFresh (h'.isFresh_iff.2 hcounts)]
  simp only
  rw [hlast.answer_eq]

theorem Sound.step_of_counts (h' : Sound ttl h) (hcounts : h.Counts ttl) (q : Query) :
    h.step (.ask q) = h := by
  obtain ⟨p, -, hask⟩ := h'.ask_of_counts hcounts q
  simp only [step, hask, if_true]

/-- While none counts, a query loads, and answers from what it has loaded. -/
theorem Sound.ask_of_not_counts (h' : Sound ttl h) (hcounts : ¬ h.Counts ttl) (q : Query) :
    BindingCache.ask q h.state = match load h.state with
      | .ok _ s => .ok (s.own.answer q) s
      | .error e s => .error e s := by
  have hfresh : h.state.own.isFresh h.state.gateway.clock = false := by
    rw [← Bool.not_eq_true, h'.isFresh_iff]
    exact hcounts
  cases hload : load h.state with
  | ok u s => rw [Room.ask_apply, ensureLoaded_of_not_isFresh hfresh, hload]
  | error e s => rw [Room.ask_apply, ensureLoaded_of_not_isFresh hfresh, hload]

/-- A query that is answered while no load counts has read both lists, and publishes them. -/
theorem Sound.ask_ok (h' : Sound ttl h) (hcounts : ¬ h.Counts ttl) {q : Query} {a : Answer}
    {s : Linked BindingCache} (hask : BindingCache.ask q h.state = .ok a s) :
    Steady h.state.gateway s.gateway ∧ ∃ calls p,
      FullRead h.state.gateway.server h.state.gateway.pageSize calls p.roleBindings
          p.clusterRoleBindings ∧
        p.time = h.state.gateway.clock ∧ s.gateway.calls = h.state.gateway.calls ++ calls ∧
        s.own = h.state.own.publish p.time p.roleBindings p.clusterRoleBindings ∧
        a = p.answer q ∧ h.step (.ask q) = ⟨s, h.published ++ [p]⟩ := by
  have hload := endsLoad_load h.state
  rw [h'.ask_of_not_counts hcounts] at hask
  split at hask
  next s' hrun =>
    cases hask
    rw [hrun] at hload
    obtain ⟨hsteady, calls, roleBindings, clusterRoleBindings, hread, hcalls, hown⟩ := hload
    refine ⟨hsteady, calls, ⟨_, roleBindings, clusterRoleBindings⟩, hread, rfl, hcalls, hown, ?_,
      ?_⟩
    · rw [hown]
      exact HoldsLast.answer_eq ⟨rfl, rfl, rfl⟩ q
    · have hmade : s.gateway.calls ≠ h.state.gateway.calls := by
        rw [hcalls]
        simpa using hread.calls_ne_nil
      simp only [step, h'.ask_of_not_counts hcounts, hrun, if_neg hmade, hown, publish]
  next => cases hask

/-- A query that fails while no load counts has read a part of them, and changes nothing that is
held or published. -/
theorem Sound.ask_error (h' : Sound ttl h) (hcounts : ¬ h.Counts ttl) {q : Query} {e : Fault}
    {s : Linked BindingCache} (hask : BindingCache.ask q h.state = .error e s) :
    Steady h.state.gateway s.gateway ∧ ∃ calls,
      PartRead h.state.gateway.server h.state.gateway.pageSize calls ∧
        s.gateway.calls = h.state.gateway.calls ++ calls ∧ s.own = h.state.own.drop ∧
        h.step (.ask q) = ⟨s, h.published⟩ := by
  have hload := endsLoad_load h.state
  have hstep : h.step (.ask q) = ⟨s, h.published⟩ := by simp only [step, hask]
  rw [h'.ask_of_not_counts hcounts] at hask
  split at hask
  next => cases hask
  next e' s' hrun =>
    cases hask
    rw [hrun] at hload
    obtain ⟨hsteady, calls, hread, hcalls, hown⟩ := hload
    exact ⟨hsteady, calls, hread, hcalls, hown, hstep⟩

theorem Sound.ask (h' : Sound ttl h) (q : Query) : Sound ttl (h.step (.ask q)) := by
  by_cases hcounts : h.Counts ttl
  · rw [h'.step_of_counts hcounts]
    exact h'
  cases hask : BindingCache.ask q h.state with
  | ok a s =>
    obtain ⟨hsteady, calls, p, -, htime, -, hown, -, hstep⟩ := h'.ask_ok hcounts hask
    -- The new publication is of now, and the older ones are of times before.
    have hpast : ∀ p' ∈ h.published, p'.time ≤ p.time := by
      rw [htime]
      exact h'.past
    rw [hstep]
    refine ⟨?_, ?_, fun _ => ⟨h.published, p, rfl, ?_, hpast⟩, ?_⟩
    · rw [hown]
      exact h'.ttl_eq
    · rw [hsteady.clock_eq, ← htime]
      simp only [List.mem_append, List.mem_singleton]
      rintro p' (hp' | rfl)
      · exact hpast p' hp'
      · exact Int.le_refl _
    · rw [hown]
      exact ⟨rfl, rfl, rfl⟩
    · rw [hown]
      exact fun hunloaded => absurd hunloaded.symm Bool.false_ne_true
  | error e s =>
    obtain ⟨hsteady, calls, -, -, hown, hstep⟩ := h'.ask_error hcounts hask
    -- The load is dropped. That takes nothing away: none counted before, and no time has passed.
    rw [hstep]
    refine ⟨?_, ?_, ?_, fun _ => ?_⟩
    · rw [hown]
      exact h'.ttl_eq
    · rw [hsteady.clock_eq]
      exact h'.past
    · rw [hown]
      exact fun hloaded => absurd hloaded Bool.false_ne_true
    · rw [Counts, hsteady.clock_eq]
      exact hcounts

/-- Whatever happens, what is known of a history stays true. -/
theorem Sound.run (h' : Sound ttl h) (turns : List Turn) : Sound ttl (h.run turns) := by
  induction turns generalizing h with
  | nil => exact h'
  | cons turn turns ih =>
    cases turn with
    | ask q => exact ih (h'.ask q)
    | outside i => exact ih (h'.outside i)

/-! ## Any history -/

/-- While no load counts, a query that fails leaves it so until the next one. -/
theorem Sound.loads (h' : Sound ttl h) (hcounts : ¬ h.Counts ttl) (q : Query) :
    h.Loads ttl q := by
  rw [Loads]
  cases hask : BindingCache.ask q h.state with
  | ok a s =>
    obtain ⟨-, calls, p, hread, htime, hcalls, hown, hanswer, hstep⟩ := h'.ask_ok hcounts hask
    refine ⟨calls, p, hread, htime, hanswer, hcalls, ?_, ?_⟩
    · rw [hown]
      rfl
    · rw [hstep]
  | error e s =>
    obtain ⟨hsteady, calls, hread, hcalls, hown, hstep⟩ := h'.ask_error hcounts hask
    refine ⟨calls, hread, hcalls, ?_, ?_, ?_, fun incidents hlater => hcounts ?_⟩
    · rw [hown]
      rfl
    · rw [hown]
      rfl
    · rw [hown]
      rfl
    · have hnow := counts_of_run_outside hlater
      rwa [hstep, Counts, hsteady.clock_eq] at hnow

/-- While no load counts, a query is answered by a server that serves both lists and can be
reached. -/
theorem Sound.exists_ask_ok (h' : Sound ttl h) (hcounts : ¬ h.Counts ttl)
    {server : Server} {size : Nat} (hreaches : h.state.gateway.Reaches server size)
    {roleBindings : List RoleBinding} {clusterRoleBindings : List ClusterRoleBinding}
    (hroles : server.ServesWhole size Server.roleBindings roleBindings)
    (hclusters : server.ServesWhole size Server.clusterRoleBindings clusterRoleBindings)
    (q : Query) : ∃ a s, BindingCache.ask q h.state = .ok a s := by
  obtain ⟨_, g, hfirst, hg, -⟩ := Gateway.yields_allRoleBindings hroles _ hreaches
  obtain ⟨_, g', hsecond, -⟩ := Gateway.yields_allClusterRoleBindings hclusters g hg
  rw [h'.ask_of_not_counts hcounts, load_apply, hfirst]
  simp only [hsecond]
  exact ⟨_, _, rfl⟩

/-- After any history of queries, time that passes, changes of the cluster and failures to come, a
query does one of two things. If one of the loads published so far counts, it makes no call, changes
nothing, and answers from the last of them. If none counts, it reads both lists from their first
pages: either it publishes and answers from what the server has now, or it fails, holds what was
held, and leaves the next query to load again; it does not fail where the server serves both lists
and can be reached. -/
theorem ask_of_run (ttl : Nat) (g : Gateway) (turns : List Turn) (q : Query) :
    let h := (start ttl g).run turns
    (h.Counts ttl → ∃ p, h.published.getLast? = some p ∧
        BindingCache.ask q h.state = .ok (p.answer q) h.state) ∧
      (¬ h.Counts ttl → h.Loads ttl q) ∧
      ∀ server size roleBindings clusterRoleBindings, ¬ h.Counts ttl →
        h.state.gateway.Reaches server size →
        server.ServesWhole size Server.roleBindings roleBindings →
        server.ServesWhole size Server.clusterRoleBindings clusterRoleBindings →
          ∃ a s, BindingCache.ask q h.state = .ok a s := by
  intro h
  have h' : Sound ttl h := (sound_start ttl g).run turns
  refine ⟨fun hcounts => h'.ask_of_counts hcounts q, fun hcounts => h'.loads hcounts q, ?_⟩
  intro server size roleBindings clusterRoleBindings hcounts hreaches hroles hclusters
  exact h'.exists_ask_ok hcounts hreaches hroles hclusters q

/-! ## A reload that fails late -/

/-- The one binding of a small cluster, to a role of the namespace `team-a`. -/
def readerBinding : RoleBinding :=
  ⟨"readers", "team-a", ⟨"Role", "reader", ""⟩, []⟩

/-- A server with one binding. -/
def smallServer : Server where
  roles _ := .ok {}
  clusterRoles _ := .ok {}
  roleBindings _ := .ok { items := [.ok readerBinding] }
  clusterRoleBindings _ := .ok {}
  objects _ _ := .ok {}
  role _ _ := .error (.api (some 404) none)
  clusterRole _ := .error (.api (some 404) none)
  pageLimit := 1

/-- One second before its time has passed, the first load counts. -/
def lastSecond : List Turn :=
  [.ask (.role "team-a" "reader"), .outside (.wait 9)]

/-- When its time has passed, a reload fails in its second list. -/
def lateFailure : List Turn :=
  [.ask (.role "team-a" "reader"), .outside (.wait 10),
    .outside (.arm ⟨"cluster_role_bindings", .transport "reset", 0⟩),
    .ask (.role "team-a" "reader")]

theorem ask_of_run_late :
    let q : Query := .role "team-a" "reader"
    let early := (start 10 { server := smallServer, pageSize := 1 }).run lastSecond
    let late := (start 10 { server := smallServer, pageSize := 1 }).run lateFailure
    (early.Counts 10 ∧ ∃ p, early.published.getLast? = some p ∧
        BindingCache.ask q early.state = .ok (p.answer q) early.state) ∧
      (¬ late.Counts 10 ∧ late.Loads 10 q) ∧
      late.state.gateway.Reaches smallServer 1 ∧
      ∃ a s, BindingCache.ask q late.state = .ok a s := by
  intro q early late
  have hearly : early.Counts 10 := by decide
  have hlate : ¬ late.Counts 10 := by decide
  have hreaches : late.state.gateway.Reaches smallServer 1 :=
    ⟨rfl, rfl, rfl, fun _ hpending => nomatch (show none = some _ from hpending)⟩
  obtain ⟨hanswers, -, -⟩ := ask_of_run 10 { server := smallServer, pageSize := 1 } lastSecond q
  obtain ⟨-, hloads, hserved⟩ :=
    ask_of_run 10 { server := smallServer, pageSize := 1 } lateFailure q
  exact ⟨⟨hearly, hanswers hearly⟩, ⟨hlate, hloads hlate⟩, hreaches,
    hserved smallServer 1 [readerBinding] [] hlate hreaches
      ⟨1, Nat.le_refl 1, .last rfl rfl⟩ ⟨1, Nat.le_refl 1, .last rfl rfl⟩⟩

end History

end ClusterAccess.BindingCache
