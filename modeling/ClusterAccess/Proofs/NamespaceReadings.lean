/-
  ClusterAccess.Proofs.NamespaceReadings

  The entitlements on cluster roles over time: questions, time that passes,
  namespaces that come and go and calls that fail, in any order. While the last
  complete reading of the namespaces counts, an answer goes by it and no call is
  made. Otherwise the namespaces are read from their first page on; what has been
  read to its end is kept, an empty list too, and what has been broken off is not.
-/
import ClusterAccess.Proofs.GatewayCalls
import ClusterAccess.Proofs.ScopeSlugs

namespace ClusterAccess

open Gateway (ReadBy BrokenOff Steady Incident callsFor)

/-! ## Reading all namespaces -/

namespace Gateway

variable {g g' : Gateway}

theorem endsRead_namespaces (g : Gateway) :
    EndsRead (.objects .nameSpace) (g.server.objects .nameSpace) g
      (drain (fun resume => objects .nameSpace resume none) g) :=
  endsRead_drain (.objects .nameSpace) (fun u => u.objects .nameSpace) g

/-- Names that have been read are those of all namespaces, page by page from the first one on. -/
theorem namespaceNames_ok {names : List String} (h : namespaceNames g = .ok names g') :
    Steady g g' ∧ ∃ objects calls,
      ReadBy (g.server.objects .nameSpace) g.pageSize calls none objects ∧
        names = objects.map ClusterObject.name ∧
          g'.calls = g.calls ++ callsFor (.objects .nameSpace) calls := by
  have hends := endsRead_namespaces g
  obtain ⟨objects, mid, hdrain, hnames⟩ := Action.bind_ok h
  cases hnames
  rw [hdrain] at hends
  obtain ⟨hsteady, calls, hread, hcalls⟩ := hends
  exact ⟨hsteady, objects, calls, hread, rfl, hcalls⟩

/-- Names that have not been read were broken off on some page. -/
theorem namespaceNames_error {e : Fault} (h : namespaceNames g = .error e g') :
    Steady g g' ∧ ∃ calls,
      BrokenOff (g.server.objects .nameSpace) g.pageSize calls none ∧
        g'.calls = g.calls ++ callsFor (.objects .nameSpace) calls := by
  have hends := endsRead_namespaces g
  rw [namespaceNames, Action.bind_apply] at h
  split at h
  next => cases h
  next e' mid hdrain =>
    cases h
    rw [hdrain] at hends
    exact hends

end Gateway

namespace NamespaceCache

variable {l : Linked NamespaceCache}

theorem names_of_current {names : List String}
    (h : l.own.current? l.gateway.clock = some names) :
    NamespaceCache.names l = .ok names l := by
  rw [NamespaceCache.names, Action.bind_apply, Action.get_apply]
  simp only [h]
  rfl

/-- Where nothing that is held counts, the names are read, and kept with the time. -/
theorem names_of_not_current (h : l.own.current? l.gateway.clock = none) :
    NamespaceCache.names l = match Gateway.namespaceNames l.gateway with
      | .ok names g => .ok names ⟨{ l.own with held := some (names, g.clock) }, g⟩
      | .error e g => .error e ⟨l.own, g⟩ := by
  rw [NamespaceCache.names, Action.bind_apply, Action.get_apply]
  simp only [h, Action.bind_apply, Linked.fetch_apply]
  cases Gateway.namespaceNames l.gateway <;> rfl

end NamespaceCache

/-- The entitlements on a cluster role are those for the names of the namespaces. -/
theorem Catalog.entitlements_clusterRoles (r : Resource) (cache : NamespaceCache) (g : Gateway) :
    Catalog.entitlements r ⟨.clusterRoles cache, g⟩ = match NamespaceCache.names ⟨cache, g⟩ with
      | .ok names s => .ok (Entitlement.ofClusterRole names r) ⟨.clusterRoles s.own, s.gateway⟩
      | .error e s => .error e ⟨.clusterRoles s.own, s.gateway⟩ := by
  simp only [entitlements, namespaces, Linked.within, Action.onPart, Action.bind_apply,
    Action.get_apply]
  cases NamespaceCache.names ⟨cache, g⟩ <;> rfl

namespace NamespaceCache

/-! ## Histories -/

/-- A complete reading of the namespaces: when it was made, of which server, in pages of which
size. -/
structure Reading where
  time : Int
  server : Server
  size : Nat

/-- These are the namespaces that the server had when they were read, from the first page to the
last one. -/
def Reading.Found (p : Reading) (objects : List ClusterObject) : Prop :=
  ∃ calls, ReadBy (p.server.objects .nameSpace) p.size calls none objects

/-- What is offered on a cluster role while there are these namespaces: a place across the cluster,
and then one inside of each of them, in their order. -/
def Offers (r : Resource) (objects : List ClusterObject) (offered : List Entitlement) : Prop :=
  offered = Entitlement.ofClusterRole (objects.map ClusterObject.name) r ∧
    offered.map Entitlement.slug = "all:member" :: objects.map fun o => o.name ++ ":member"

theorem offers_ofClusterRole (r : Resource) (objects : List ClusterObject) :
    Offers r objects (Entitlement.ofClusterRole (objects.map ClusterObject.name) r) := by
  have hslug (ns : String) : (Entitlement.within r ns).slug = ns ++ ":member" := by
    show ns ++ ":" ++ member = ns ++ ":member"
    rw [String.append_assoc]
    rfl
  refine ⟨rfl, ?_⟩
  rw [Entitlement.ofClusterRole, List.map_cons, List.map_map, List.map_map]
  congr 1
  exact List.map_congr_left fun o _ => hslug o.name

/-- One thing that happens: a question for the entitlements on a cluster role, or an incident
outside. -/
inductive Turn
  | ask (r : Resource)
  | outside (i : Incident)

/-- The catalogue of cluster roles with its gateway, and the complete readings so far. -/
structure History where
  state : Linked Catalog
  readings : List Reading := []

namespace History

/-- A catalogue that nobody has asked yet. -/
def start (ttl : Nat) (g : Gateway) : History where
  state := ⟨.clusterRoles { ttl }, g⟩

/-- What is there after one more turn. A question that was answered behind calls of its own has
read the namespaces. -/
def step (h : History) : Turn → History
  | .outside i => { h with state := { h.state with gateway := h.state.gateway.undergo i } }
  | .ask r =>
    match Catalog.entitlements r h.state with
    | .error _ s => { h with state := s }
    | .ok _ s =>
      if s.gateway.calls = h.state.gateway.calls then { h with state := s }
      else { state := s, readings := h.readings ++
        [⟨h.state.gateway.clock, h.state.gateway.server, h.state.gateway.pageSize⟩] }

/-- What is there after these turns. -/
def run (h : History) (turns : List Turn) : History :=
  turns.foldl step h

/-- Whether the last reading was made less than so many seconds ago. -/
def Counts (h : History) (ttl : Nat) : Prop :=
  ∃ p, h.readings.getLast? = some p ∧ h.state.gateway.clock - p.time < ttl

/-- A question reads the namespaces first: it answers by all that the server has now, and has made a
reading; or it fails on some page, keeps what was kept, and until the next question no reading
counts. -/
def Reads (h : History) (ttl : Nat) (r : Resource) : Prop :=
  match Catalog.entitlements r h.state with
  | .ok offered s => ∃ objects calls,
      ReadBy (h.state.gateway.server.objects .nameSpace) h.state.gateway.pageSize calls none
          objects ∧
        s.gateway.calls = h.state.gateway.calls ++ callsFor (.objects .nameSpace) calls ∧
        Offers r objects offered ∧
        (h.step (.ask r)).readings = h.readings ++
          [⟨h.state.gateway.clock, h.state.gateway.server, h.state.gateway.pageSize⟩]
  | .error _ s => ∃ calls,
      BrokenOff (h.state.gateway.server.objects .nameSpace) h.state.gateway.pageSize calls none ∧
        s.gateway.calls = h.state.gateway.calls ++ callsFor (.objects .nameSpace) calls ∧
        s.own = h.state.own ∧ (h.step (.ask r)).readings = h.readings ∧
        ∀ incidents : List Incident,
          ¬ ((h.step (.ask r)).run (incidents.map .outside)).Counts ttl

/-! ## What is known of a history -/

/-- What is held are the names of the last reading, with its time, or nothing if there has been
none. -/
def Holds (held : Option (List String × Int)) : Option Reading → Prop
  | none => held = none
  | some p => ∃ objects, p.Found objects ∧ held = some (objects.map ClusterObject.name, p.time)

/-- The catalogue is one of cluster roles that holds the last reading. -/
structure Sound (ttl : Nat) (h : History) (cache : NamespaceCache) : Prop where
  own_eq : h.state.own = .clusterRoles cache
  ttl_eq : cache.ttl = ttl
  holds : Holds cache.held h.readings.getLast?
  past : ∀ p, h.readings.getLast? = some p → p.time ≤ h.state.gateway.clock

variable {ttl : Nat} {h : History} {cache : NamespaceCache}

theorem sound_start (ttl : Nat) (g : Gateway) : Sound ttl (start ttl g) { ttl } :=
  ⟨rfl, rfl, rfl, fun _ => nofun⟩

/-- A reading of zero seconds has never been made less than that ago. -/
theorem Sound.not_counts_zero (h' : Sound ttl h cache) : ¬ h.Counts 0 := by
  rintro ⟨p, hlast, hyoung⟩
  have hpast := h'.past p hlast
  omega

/-- While the last reading counts, its names are at hand. -/
theorem Sound.current_of_counts (h' : Sound ttl h cache) (hcounts : h.Counts ttl) :
    ∃ p objects, h.readings.getLast? = some p ∧ p.Found objects ∧
      cache.current? h.state.gateway.clock = some (objects.map ClusterObject.name) := by
  obtain ⟨p, hlast, hyoung⟩ := hcounts
  have hholds := h'.holds
  rw [hlast] at hholds
  obtain ⟨objects, hfound, hheld⟩ := hholds
  refine ⟨p, objects, hlast, hfound, ?_⟩
  rw [current?, hheld]
  exact if_pos (by rw [h'.ttl_eq]; omega)

/-- While it does not, there are none. -/
theorem Sound.current_of_not_counts (h' : Sound ttl h cache) (hcounts : ¬ h.Counts ttl) :
    cache.current? h.state.gateway.clock = none := by
  have hholds := h'.holds
  cases hlast : h.readings.getLast? with
  | none =>
    rw [hlast] at hholds
    rw [current?, show cache.held = none from hholds]
  | some p =>
    rw [hlast] at hholds
    obtain ⟨objects, -, hheld⟩ := hholds
    rw [current?, hheld]
    refine if_neg fun hyoung => hcounts ⟨p, hlast, ?_⟩
    rw [h'.ttl_eq] at hyoung
    omega

/-! ## One turn -/

/-- Outside of questions no reading is made, and the last one counts no longer than before. -/
theorem counts_of_outside {i : Incident} (hcounts : (h.step (.outside i)).Counts ttl) :
    h.Counts ttl := by
  obtain ⟨p, hlast, hyoung⟩ := hcounts
  have hclock : h.state.gateway.clock ≤ (h.state.gateway.undergo i).clock :=
    Gateway.clock_le_undergo _ i
  refine ⟨p, hlast, ?_⟩
  have hlater : (h.state.gateway.undergo i).clock - p.time < ttl := hyoung
  omega

theorem counts_of_run_outside {incidents : List Incident}
    (hcounts : (h.run (incidents.map .outside)).Counts ttl) : h.Counts ttl := by
  induction incidents generalizing h with
  | nil => exact hcounts
  | cons i incidents ih => exact counts_of_outside (ih hcounts)

theorem Sound.outside (h' : Sound ttl h cache) (i : Incident) :
    Sound ttl (h.step (.outside i)) cache where
  own_eq := h'.own_eq
  ttl_eq := h'.ttl_eq
  holds := h'.holds
  past p hlast := Int.le_trans (h'.past p hlast) (Gateway.clock_le_undergo _ i)

/-- While the last reading counts, a question is answered by it, and nothing changes. -/
theorem Sound.ask_of_counts (h' : Sound ttl h cache) (hcounts : h.Counts ttl) (r : Resource) :
    ∃ p objects offered, h.readings.getLast? = some p ∧ p.Found objects ∧
      Offers r objects offered ∧ Catalog.entitlements r h.state = .ok offered h.state := by
  obtain ⟨p, objects, hlast, hfound, hcurrent⟩ := h'.current_of_counts hcounts
  refine ⟨p, objects, _, hlast, hfound, offers_ofClusterRole r objects, ?_⟩
  obtain ⟨⟨own, gateway⟩, readings⟩ := h
  obtain rfl : own = .clusterRoles cache := h'.own_eq
  rw [Catalog.entitlements_clusterRoles, names_of_current hcurrent]

/-- While it does not, the namespaces are read, and the answer goes by what has been read. -/
theorem Sound.ask_of_not_counts (h' : Sound ttl h cache) (hcounts : ¬ h.Counts ttl)
    (r : Resource) :
    Catalog.entitlements r h.state = match Gateway.namespaceNames h.state.gateway with
      | .ok names g => .ok (Entitlement.ofClusterRole names r)
          ⟨.clusterRoles { cache with held := some (names, g.clock) }, g⟩
      | .error e g => .error e ⟨.clusterRoles cache, g⟩ := by
  have hcurrent := h'.current_of_not_counts hcounts
  obtain ⟨⟨own, gateway⟩, readings⟩ := h
  obtain rfl : own = .clusterRoles cache := h'.own_eq
  rw [Catalog.entitlements_clusterRoles, names_of_not_current hcurrent]
  cases Gateway.namespaceNames gateway <;> rfl

/-- A question that is answered while the last reading does not count has made one. -/
theorem Sound.ask_ok (h' : Sound ttl h cache) (hcounts : ¬ h.Counts ttl) {r : Resource}
    {offered : List Entitlement} {s : Linked Catalog}
    (hask : Catalog.entitlements r h.state = .ok offered s) :
    Steady h.state.gateway s.gateway ∧ ∃ objects calls,
      ReadBy (h.state.gateway.server.objects .nameSpace) h.state.gateway.pageSize calls none
          objects ∧
        s.gateway.calls = h.state.gateway.calls ++ callsFor (.objects .nameSpace) calls ∧
        Offers r objects offered ∧
        s.own = .clusterRoles { cache with
          held := some (objects.map ClusterObject.name, h.state.gateway.clock) } ∧
        h.step (.ask r) = ⟨s, h.readings ++
          [⟨h.state.gateway.clock, h.state.gateway.server, h.state.gateway.pageSize⟩]⟩ := by
  have hanswer := hask
  rw [h'.ask_of_not_counts hcounts] at hask
  split at hask
  next names g hnames =>
    obtain ⟨hsteady, objects, calls, hread, rfl, hcalls⟩ := Gateway.namespaceNames_ok hnames
    cases hask
    refine ⟨hsteady, objects, calls, hread, hcalls, offers_ofClusterRole r objects, ?_, ?_⟩
    · rw [hsteady.clock_eq]
    · -- A reading takes one call at least, so the step has noticed it.
      have hmade : g.calls ≠ h.state.gateway.calls := by
        rw [hcalls]
        cases hread <;> simp [callsFor]
      simp only [step, hanswer, if_neg hmade]
  next => cases hask

/-- A question that fails while the last reading does not count has broken one off, and keeps what
    was kept. -/
theorem Sound.ask_error (h' : Sound ttl h cache) (hcounts : ¬ h.Counts ttl) {r : Resource}
    {e : Fault} {s : Linked Catalog} (hask : Catalog.entitlements r h.state = .error e s) :
    Steady h.state.gateway s.gateway ∧ ∃ calls,
      BrokenOff (h.state.gateway.server.objects .nameSpace) h.state.gateway.pageSize calls none ∧
        s.gateway.calls = h.state.gateway.calls ++ callsFor (.objects .nameSpace) calls ∧
        s.own = .clusterRoles cache ∧ h.step (.ask r) = ⟨s, h.readings⟩ := by
  have hstep : h.step (.ask r) = ⟨s, h.readings⟩ := by simp only [step, hask]
  rw [h'.ask_of_not_counts hcounts] at hask
  split at hask
  next => cases hask
  next e' g hnames =>
    obtain ⟨hsteady, calls, hbroken, hcalls⟩ := Gateway.namespaceNames_error hnames
    cases hask
    exact ⟨hsteady, calls, hbroken, hcalls, rfl, hstep⟩

/-- A question leaves a catalogue that holds the last reading, the one it has made among them. -/
theorem Sound.ask (h' : Sound ttl h cache) (r : Resource) :
    ∃ cache', Sound ttl (h.step (.ask r)) cache' := by
  by_cases hcounts : h.Counts ttl
  · obtain ⟨p, objects, offered, -, -, -, hask⟩ := h'.ask_of_counts hcounts r
    have hstep : h.step (.ask r) = h := by simp only [step, hask, if_true]
    rw [hstep]
    exact ⟨cache, h'⟩
  cases hask : Catalog.entitlements r h.state with
  | ok offered s =>
    obtain ⟨hsteady, objects, calls, hread, -, -, hown, hstep⟩ := h'.ask_ok hcounts hask
    rw [hstep]
    refine ⟨_, hown, h'.ttl_eq, ?_, ?_⟩
    · rw [List.getLast?_concat]
      exact ⟨objects, ⟨calls, hread⟩, rfl⟩
    · rw [List.getLast?_concat, hsteady.clock_eq]
      rintro p ⟨⟩
      exact Int.le_refl _
  | error e s =>
    obtain ⟨hsteady, calls, -, -, hown, hstep⟩ := h'.ask_error hcounts hask
    rw [hstep]
    refine ⟨cache, hown, h'.ttl_eq, h'.holds, ?_⟩
    rw [hsteady.clock_eq]
    exact h'.past

/-- Whatever happens, the catalogue holds the last reading. -/
theorem Sound.run (h' : Sound ttl h cache) (turns : List Turn) :
    ∃ cache', Sound ttl (h.run turns) cache' := by
  induction turns generalizing h cache with
  | nil => exact ⟨cache, h'⟩
  | cons turn turns ih =>
    cases turn with
    | outside i => exact ih (h'.outside i)
    | ask r =>
      obtain ⟨cache', hnext⟩ := h'.ask r
      exact ih hnext

/-! ## Any history -/

theorem Sound.reads (h' : Sound ttl h cache) (hcounts : ¬ h.Counts ttl) (r : Resource) :
    h.Reads ttl r := by
  rw [Reads]
  cases hask : Catalog.entitlements r h.state with
  | ok offered s =>
    obtain ⟨-, objects, calls, hread, hcalls, hoffers, -, hstep⟩ := h'.ask_ok hcounts hask
    exact ⟨objects, calls, hread, hcalls, hoffers, by rw [hstep]⟩
  | error e s =>
    obtain ⟨hsteady, calls, hbroken, hcalls, hown, hstep⟩ := h'.ask_error hcounts hask
    refine ⟨calls, hbroken, hcalls, hown.trans h'.own_eq.symm, by rw [hstep], ?_⟩
    -- The failure made no reading and took no time, so what did not count still does not.
    intro incidents hlater
    have hnow := counts_of_run_outside hlater
    rw [hstep, Counts, hsteady.clock_eq] at hnow
    exact hcounts hnow

/-- While the last reading does not count, a question is answered by a server that serves its
    namespaces and can be reached. -/
theorem Sound.exists_ask_ok (h' : Sound ttl h cache) (hcounts : ¬ h.Counts ttl) {server : Server}
    {size : Nat} (hreaches : h.state.gateway.Reaches server size) {objects : List ClusterObject}
    (hserves : server.ServesWhole size (fun u => u.objects .nameSpace) objects) (r : Resource) :
    ∃ offered s, Catalog.entitlements r h.state = .ok offered s ∧ Offers r objects offered := by
  obtain ⟨names, g, hnames, -, rfl⟩ := Gateway.yields_namespaceNames hserves _ hreaches
  rw [h'.ask_of_not_counts hcounts, hnames]
  exact ⟨_, _, rfl, offers_ofClusterRole r objects⟩

/-- After any history of questions, time that passes, changes of the namespaces and failures to
    come, a question for the entitlements on a cluster role does one of two things. If the last
    complete reading was made less than `ttl` seconds ago, it makes no call, changes nothing, and
    offers a place across the cluster and one in each namespace of that reading. If not, it reads
    the namespaces from their first page on: either it offers the places in those that the server
    has now, and that is the last reading, were it an empty one; or it fails on some page, keeps
    nothing of it, and leaves the next question to read from the first page again. It does not fail
    where the server serves its namespaces and can be reached. With a `ttl` of zero every question
    reads. -/
theorem entitlements_of_run (ttl : Nat) (g : Gateway) (turns : List Turn) (r : Resource) :
    let h := (start ttl g).run turns
    (h.Counts ttl → ∃ p objects offered, h.readings.getLast? = some p ∧ p.Found objects ∧
        Offers r objects offered ∧ Catalog.entitlements r h.state = .ok offered h.state) ∧
      (¬ h.Counts ttl → h.Reads ttl r) ∧ (ttl = 0 → ¬ h.Counts ttl) ∧
      ∀ server size objects, ¬ h.Counts ttl → h.state.gateway.Reaches server size →
        server.ServesWhole size (fun u => u.objects .nameSpace) objects →
          ∃ offered s, Catalog.entitlements r h.state = .ok offered s ∧
            Offers r objects offered := by
  intro h
  obtain ⟨cache, h'⟩ : ∃ cache, Sound ttl h cache := (sound_start ttl g).run turns
  refine ⟨fun hcounts => h'.ask_of_counts hcounts r, fun hcounts => h'.reads hcounts r, ?_, ?_⟩
  · rintro rfl
    exact h'.not_counts_zero
  intro server size objects hcounts hreaches hserves
  exact h'.exists_ask_ok hcounts hreaches hserves r

/-! ## A reading that fails late, and an empty one -/

/-- The namespaces of two teams. -/
def teams : List ClusterObject :=
  [{ kind := "Namespace", name := "team-a" }, { kind := "Namespace", name := "team-b" }]

/-- A server that has these namespaces, one on each page. -/
def teamServer (namespaces : List ClusterObject) : Server where
  roles _ := .ok {}
  clusterRoles _ := .ok {}
  roleBindings _ := .ok {}
  clusterRoleBindings _ := .ok {}
  objects _ call :=
    if call.resume = none then .ok { items := (namespaces.take 1).map .ok, next := some "second" }
    else .ok { items := (namespaces.drop 1).map .ok }
  role _ _ := .error (.api (some 404) none)
  clusterRole _ := .error (.api (some 404) none)
  pageLimit := 2

theorem serves_teamServer (namespaces : List ClusterObject) :
    Server.Serves ((teamServer namespaces).objects .nameSpace) (1 : Nat) 2 none namespaces := by
  have hlast : Server.Serves ((teamServer namespaces).objects .nameSpace) (1 : Nat) 1
      (some "second") (namespaces.drop 1) := .last rfl rfl
  have hfirst : (teamServer namespaces).objects .nameSpace ⟨(1 : Nat), none⟩ =
      .ok ⟨(namespaces.take 1).map .ok, some "second"⟩ := rfl
  have hboth : Server.Serves ((teamServer namespaces).objects .nameSpace) (1 : Nat) 2 none
      (namespaces.take 1 ++ namespaces.drop 1) := .more hfirst rfl hlast
  rwa [List.take_append_drop] at hboth

/-- A gateway to the server of the two teams. -/
def teamGateway : Gateway where
  server := teamServer teams
  pageSize := 1

/-- One second before its time has passed, the first reading counts. -/
def lastSecond (r : Resource) : List Turn :=
  [.ask r, .outside (.wait 9)]

/-- When its time has passed, a reading fails on its second page. -/
def lateFailure (r : Resource) : List Turn :=
  [.ask r, .outside (.wait 10), .outside (.arm ⟨"namespace", .transport "reset", 1⟩), .ask r]

/-- There are no namespaces any more when they are read. -/
def goneTeams (r : Resource) : List Turn :=
  [.outside (.change (teamServer [])), .ask r]

/-- The first reading answers while it counts; behind a failure on the second page all is read
    again; and that there are no namespaces is remembered like any other reading. -/
theorem entitlements_of_run_late :
    let r := Catalog.roleResource "keeper"
    let early := (start 10 teamGateway).run (lastSecond r)
    let late := (start 10 teamGateway).run (lateFailure r)
    let gone := (start 10 teamGateway).run (goneTeams r)
    (early.Counts 10 ∧ ∃ p objects offered, early.readings.getLast? = some p ∧
        p.Found objects ∧ Offers r objects offered ∧
          Catalog.entitlements r early.state = .ok offered early.state) ∧
      (¬ late.Counts 10 ∧ late.Reads 10 r) ∧
      (late.state.gateway.Reaches (teamServer teams) 1 ∧ ∃ offered s,
        Catalog.entitlements r late.state = .ok offered s ∧ Offers r teams offered) ∧
      gone.Counts 10 ∧ ∃ offered, Catalog.entitlements r gone.state = .ok offered gone.state ∧
        offered.map Entitlement.slug = ["all:member"] := by
  intro r early late gone
  have hearly : early.Counts 10 := ⟨_, rfl, by decide⟩
  have hlate : ¬ late.Counts 10 := by
    rintro ⟨p, ⟨⟩, hyoung⟩
    exact absurd hyoung (by decide)
  have hgone : gone.Counts 10 := ⟨_, rfl, by decide⟩
  have hreaches : late.state.gateway.Reaches (teamServer teams) 1 :=
    ⟨rfl, rfl, rfl, fun _ hpending => nomatch (show none = some _ from hpending)⟩
  obtain ⟨hanswers, -, -, -⟩ := entitlements_of_run 10 teamGateway (lastSecond r) r
  obtain ⟨-, hreads, -, hserved⟩ := entitlements_of_run 10 teamGateway (lateFailure r) r
  obtain ⟨hremembers, -, -, -⟩ := entitlements_of_run 10 teamGateway (goneTeams r) r
  refine ⟨⟨hearly, hanswers hearly⟩, ⟨hlate, hreads hlate⟩, ⟨hreaches, ?_⟩, hgone, ?_⟩
  · exact hserved (teamServer teams) 1 teams hlate hreaches
      ⟨2, Nat.le_refl 2, serves_teamServer teams⟩
  · obtain ⟨p, objects, offered, hlast, ⟨calls, hread⟩, ⟨-, hslugs⟩, hask⟩ := hremembers hgone
    -- What was read is the empty list, however often it is read.
    obtain rfl : (⟨0, teamServer [], 1⟩ : Reading) = p := Option.some.inj hlast
    have hfirst : (teamServer []).objects .nameSpace ⟨(1 : Nat), none⟩ =
        .ok ⟨([] : List ClusterObject).map .ok, some "second"⟩ := rfl
    have hempty : ReadBy ((teamServer []).objects .nameSpace) (1 : Nat)
        [⟨(1 : Nat), none⟩, ⟨(1 : Nat), some "second"⟩] none ([] ++ []) :=
      .more hfirst rfl (.last rfl rfl)
    obtain rfl : objects = [] := hread.unique hempty
    exact ⟨offered, hask, hslugs⟩

end History
end NamespaceCache
end ClusterAccess
