/-
  ClusterAccess.Proofs.QueryAlone

  A query by itself is one of the runs of concurrent queries: whatever it answers,
  or fails with, is what the query comes to when nobody else asks, and it leaves
  the same cache behind.
-/
import ClusterAccess.Proofs.BindingLoads
import ClusterAccess.Proofs.ConcurrentQueries

namespace ClusterAccess

/-! ## Places -/

namespace Gateway

/-- The next place of a page is never the empty text. -/
theorem placeOf_next {α : Type} {name : ListName} {serve : Server → ListCall → Answer α}
    {resume : Option String} {limit : Option Int} {g g' : Gateway} {page : Page α}
    (h : listPage name serve resume limit g = .ok page g') : placeOf page.next = page.next := by
  simp only [listPage, Action.bind_apply, Action.get_apply] at h
  split at h
  next answer g₁ hplace =>
    split at h
    next items g₂ hread =>
      cases h
      exact placeOf_placeOf _
    next => cases h
  next => cases h

end Gateway

namespace BindingCache.Room

open Gateway (placeOf followFrom)

variable {query : Nat → Query} {t : Nat} {α : Type} {s : Room}

/-! ## Runs of one query -/

theorem run_append (events later : List Event) :
    s.run query (events ++ later) = (s.run query events).bind fun next => next.run query later := by
  induction events generalizing s with
  | nil => rfl
  | cons e es ih =>
    simp only [List.cons_append, run]
    cases s.step query e with
    | none => rfl
    | some next => exact ih

/-- A run that goes on with one more event. -/
theorem run_concat {events : List Event} {e : Event} {mid last : Room}
    (h : s.run query events = some mid) (hstep : mid.step query e = some last) :
    s.run query (events ++ [e]) = some last := by
  rw [run_append, h]
  simp only [Option.bind_some, run, hstep]

/-- Nothing has changed but how far queries have come, and the calls. -/
structure Keeps (s next : Room) : Prop where
  cache_eq : next.cache = s.cache
  clock_eq : next.clock = s.clock
  holder_eq : next.holder = s.holder

theorem Keeps.trans {s mid last : Room} (h : s.Keeps mid) (h' : mid.Keeps last) : s.Keeps last where
  cache_eq := h'.cache_eq.trans h.cache_eq
  clock_eq := h'.clock_eq.trans h.clock_eq
  holder_eq := h'.holder_eq.trans h.holder_eq

/-- How a query reads one of the two lists: the stage in which it does, and the event of a page. A
    page that is not the last one makes it ask for the next one. -/
structure ReadsBy (query : Nat → Query) (t : Nat)
    (stage : Transcript α → Option String → Stage) (event : Page α → Event) : Prop where
  isLoading : ∀ read place, (stage read place).isLoading
  step_eq : ∀ (s : Room) read place page behind, s.stage t = stage read place →
    placeOf page.next = some behind → ∃ next, s.step query (event page) = some next ∧
      s.Keeps next ∧ next.stage t = stage (read ++ [(place, page)]) (some behind)

theorem readsBy_roleBindings (query : Nat → Query) :
    ReadsBy query t .readingRoleBindings (.roleBindings t) where
  isLoading _ _ := rfl
  step_eq s read place page behind hstage hbehind := by
    refine ⟨(s.move t (.readingRoleBindings (read ++ [(place, page)]) (some behind))).call
      .roleBindings (some behind), ?_, ⟨rfl, rfl, rfl⟩, by simp [move, call]⟩
    simp only [step, hstage, hbehind]

theorem readsBy_clusterRoleBindings (query : Nat → Query) (roleBindings : Transcript RoleBinding) :
    ReadsBy query t (.readingClusterRoleBindings roleBindings) (.clusterRoleBindings t) where
  isLoading _ _ := rfl
  step_eq s read place page behind hstage hbehind := by
    refine ⟨(s.move t (.readingClusterRoleBindings roleBindings (read ++ [(place, page)])
      (some behind))).call .clusterRoleBindings (some behind), ?_, ⟨rfl, rfl, rfl⟩,
      by simp [move, call]⟩
    simp only [step, hstage, hbehind]

variable {stage : Transcript α → Option String → Stage} {event : Page α → Event}
  {fetch : Option String → Fetch (Page α)}

theorem items_concat (read : Transcript α) (place : Option String) (page : Page α) :
    Transcript.items (read ++ [(place, page)]) = read.items ++ page.items := by
  simp [Transcript.items]

/-- A list that is followed to its end brings the query in front of its last page. -/
theorem run_of_followFrom_ok (hreads : ReadsBy query t stage event)
    (hnext : ∀ place g page g', fetch place g = .ok page g' → placeOf page.next = page.next)
    {fuel : Nat} (read : Transcript α) {place : Option String} {g g' : Gateway} {items : List α}
    (hfollow : followFrom fetch fuel read.items place g = .ok items g')
    (hstage : s.stage t = stage read place) :
    ∃ events last front behind page, s.run query events = some last ∧ s.Keeps last ∧
      last.stage t = stage front behind ∧ placeOf page.next = none ∧
      Transcript.items (front ++ [(behind, page)]) = items := by
  -- By the fuel: each page read is one event, and what was collected so far is the transcript.
  induction fuel generalizing read place g s with
  | zero => cases hfollow
  | succ fuel ih =>
    rw [followFrom, Action.bind_apply] at hfollow
    cases hpage : fetch place g with
    | error e g₁ =>
      rw [hpage] at hfollow
      cases hfollow
    | ok page g₁ =>
      rw [hpage] at hfollow
      cases hbehind : page.next with
      | none =>
        simp only [hbehind] at hfollow
        cases hfollow
        have hend : placeOf page.next = none := by rw [hnext _ _ _ _ hpage, hbehind]
        exact ⟨[], s, read, place, page, rfl, ⟨rfl, rfl, rfl⟩, hstage, hend, items_concat _ _ _⟩
      | some behind =>
        simp only [hbehind, ← items_concat read place page] at hfollow
        have hsome : placeOf page.next = some behind := by rw [hnext _ _ _ _ hpage, hbehind]
        obtain ⟨mid, hstep, hkeeps, hmid⟩ := hreads.step_eq s read place page behind hstage hsome
        obtain ⟨events, last, front, place', page', hrun, hkeeps', hlast⟩ := ih _ hfollow hmid
        refine ⟨event page :: events, last, front, place', page', ?_, hkeeps.trans hkeeps', hlast⟩
        simp only [run, hstep, hrun]

/-- A list that cannot be followed to its end leaves the query inside of it. -/
theorem run_of_followFrom_error (hreads : ReadsBy query t stage event)
    (hnext : ∀ place g page g', fetch place g = .ok page g' → placeOf page.next = page.next)
    {fuel : Nat} (read : Transcript α) {place : Option String} {g g' : Gateway} {e : Fault}
    (hfollow : followFrom fetch fuel read.items place g = .error e g')
    (hstage : s.stage t = stage read place) :
    ∃ events last, s.run query events = some last ∧ s.Keeps last ∧ (last.stage t).isLoading := by
  have hloading : (s.stage t).isLoading := by
    rw [hstage]
    exact hreads.isLoading _ _
  -- Without fuel the list is given up where it is; a page that fails gives it up as well.
  induction fuel generalizing read place g s with
  | zero => exact ⟨[], s, rfl, ⟨rfl, rfl, rfl⟩, hloading⟩
  | succ fuel ih =>
    rw [followFrom, Action.bind_apply] at hfollow
    cases hpage : fetch place g with
    | error e' g₁ => exact ⟨[], s, rfl, ⟨rfl, rfl, rfl⟩, hloading⟩
    | ok page g₁ =>
      rw [hpage] at hfollow
      cases hbehind : page.next with
      | none =>
        simp only [hbehind] at hfollow
        cases hfollow
      | some behind =>
        simp only [hbehind, ← items_concat read place page] at hfollow
        have hsome : placeOf page.next = some behind := by rw [hnext _ _ _ _ hpage, hbehind]
        obtain ⟨mid, hstep, hkeeps, hmid⟩ := hreads.step_eq s read place page behind hstage hsome
        obtain ⟨events, last, hrun, hkeeps', hlast⟩ := ih _ hfollow hmid
          (by rw [hmid]; exact hreads.isLoading _ _)
        refine ⟨event page :: events, last, ?_, hkeeps.trans hkeeps', hlast⟩
        simp only [run, hstep, hrun]

/-- A query that loads can fail, and gives the lock back. -/
theorem step_fail (h : (s.stage t).isLoading) (e : Fault) :
    s.step query (.fail t e) = some ((s.release t).move t (.failed e)) := by
  simp only [step, h, if_true]

/-! ## A load by itself -/

/-- A query has come to the end that an action gives, and has left the action's cache. -/
def EndsAs (s : Room) (t : Nat) : EStateM.Result Fault (Linked BindingCache) Answer → Prop
  | .ok a l => s.stage t = .answered a ∧ s.cache = l.own ∧ s.holder = none
  | .error e l => s.stage t = .failed e ∧ s.cache = l.own ∧ s.holder = none

/-- A query answers from a load that counts, behind a load if there is none. -/
theorem ask_apply (q : Query) (l : Linked BindingCache) :
    ask q l = match ensureLoaded l with
      | .ok _ l' => .ok (l'.own.answer q) l'
      | .error e l' => .error e l' := by
  cases q with
  | role ns name =>
    simp only [ask, Action.bind_apply, matchingRole_apply]
    cases ensureLoaded l <;> rfl
  | clusterRole name =>
    simp only [ask, Action.bind_apply, matchingClusterRole_apply]
    cases ensureLoaded l <;> rfl

/-- A query whose list call fails gives the lock back and comes to fail. -/
theorem exists_run_fail (events : List Event) {mid : Room} {l : Linked BindingCache} {e : Fault}
    (hrun : s.run query events = some mid) (hmid : (mid.stage t).isLoading)
    (hholder : mid.holder = some t) (hcache : mid.cache = l.own) :
    ∃ events last, s.run query events = some last ∧ last.EndsAs t (.error e l) := by
  refine ⟨_, _, run_concat hrun (step_fail hmid e), by simp [move], hcache, ?_⟩
  simp [move, release, hholder]

/-- A query that has read the role bindings reads the other list, publishes both and answers, or
    fails. -/
theorem exists_run_publish (read : Transcript RoleBinding) (c : BindingCache) (g : Gateway)
    (hcache : s.cache = c) (hholder : s.holder = some t)
    (hstage : s.stage t = .readingClusterRoleBindings read [] none) :
    ∃ events last, s.run query events = some last ∧
      last.EndsAs t (match Gateway.allClusterRoleBindings g with
        | .ok clusterRoleBindings g' =>
          let published := c.publish g'.clock read.items clusterRoleBindings
          .ok (published.answer (query t)) ⟨published, g'⟩
        | .error e g' => .error e ⟨c, g'⟩) := by
  cases hclusters : Gateway.allClusterRoleBindings g with
  | error e g' =>
    rw [Gateway.allClusterRoleBindings, Gateway.drain_apply] at hclusters
    obtain ⟨events, last, hrun, hkeeps, hlast⟩ := run_of_followFrom_error
      (readsBy_clusterRoleBindings query _) (fun _ _ _ _ h => Gateway.placeOf_next h) []
      hclusters hstage
    exact exists_run_fail events hrun hlast (hkeeps.holder_eq.trans hholder)
      (hkeeps.cache_eq.trans hcache)
  | ok clusterRoleBindings g' =>
    rw [Gateway.allClusterRoleBindings, Gateway.drain_apply] at hclusters
    obtain ⟨events, last, front, place, page, hrun, hkeeps, hlast, hend, hitems⟩ :=
      run_of_followFrom_ok (readsBy_clusterRoleBindings query _)
        (fun _ _ _ _ h => Gateway.placeOf_next h) [] hclusters hstage
    -- The load is stamped with the time at its end, to which the clock is moved before.
    have hstep : ({ last with clock := g'.clock } : Room).step query
        (.clusterRoleBindings t page) = some (({ last with clock := g'.clock } : Room).finishLoad
          query t ⟨read, front ++ [(place, page)]⟩) := by
      simp only [step, hlast, hend]
    have hholder' : last.holder = some t := hkeeps.holder_eq.trans hholder
    have hcache' : last.cache = c := hkeeps.cache_eq.trans hcache
    refine ⟨_, _, run_concat (run_concat (e := .tick g'.clock) hrun rfl) hstep, ?_, ?_, ?_⟩
    · simp [finishLoad, move, hcache', hitems]
    · simp [finishLoad, move, release, hcache', hitems]
    · simp [finishLoad, move, release, hholder']

/-- A query with the lock loads both lists, publishes them and answers, or fails. -/
theorem exists_run_load (l : Linked BindingCache) (hcache : s.cache = l.own.drop)
    (hholder : s.holder = some t) (hstage : s.stage t = .readingRoleBindings [] none) :
    ∃ events last, s.run query events = some last ∧
      last.EndsAs t (match load l with
        | .ok _ l' => .ok (l'.own.answer (query t)) l'
        | .error e l' => .error e l') := by
  rw [load_apply]
  cases hroles : Gateway.allRoleBindings l.gateway with
  | error e g =>
    rw [Gateway.allRoleBindings, Gateway.drain_apply] at hroles
    obtain ⟨events, mid, hrun, hkeeps, hmid⟩ := run_of_followFrom_error
      (readsBy_roleBindings query) (fun _ _ _ _ h => Gateway.placeOf_next h) [] hroles hstage
    exact exists_run_fail events hrun hmid (hkeeps.holder_eq.trans hholder)
      (hkeeps.cache_eq.trans hcache)
  | ok roleBindings g =>
    rw [Gateway.allRoleBindings, Gateway.drain_apply] at hroles
    obtain ⟨events, mid, front, place, page, hrun, hkeeps, hmid, hend, hitems⟩ :=
      run_of_followFrom_ok (readsBy_roleBindings query)
        (fun _ _ _ _ h => Gateway.placeOf_next h) [] hroles hstage
    -- The last page of role bindings makes the query ask for the other list.
    have hstep : mid.step query (.roleBindings t page) = some ((mid.move t
        (.readingClusterRoleBindings (front ++ [(place, page)]) [] none)).call
          .clusterRoleBindings none) := by
      simp only [step, hmid, hend]
    obtain ⟨later, last, hlater, hlast⟩ := exists_run_publish (t := t)
      (s := (mid.move t (.readingClusterRoleBindings (front ++ [(place, page)]) [] none)).call
        .clusterRoleBindings none)
      (front ++ [(place, page)]) l.own.drop g (hkeeps.cache_eq.trans hcache)
      (hkeeps.holder_eq.trans hholder) (by simp [move, call])
    refine ⟨events ++ [.roleBindings t page] ++ later, last, ?_, ?_⟩
    · rw [run_append, run_concat hrun hstep, Option.bind_some, hlater]
    · rw [hitems] at hlast
      cases hclusters : Gateway.allClusterRoleBindings g with
      | error e g' => simpa only [hclusters] using hlast
      | ok clusterRoleBindings g' => simpa only [hclusters] using hlast

/-! ## A query by itself -/

/-- A room in which nobody has asked yet. -/
def ofLinked (l : Linked BindingCache) : Room where
  cache := l.own
  clock := l.gateway.clock

/-- What a query does by itself is a run of it alone. -/
theorem exists_run_ask (query : Nat → Query) (t : Nat) (l : Linked BindingCache) :
    ∃ events last, (ofLinked l).run query events = some last ∧
      last.EndsAs t (ask (query t) l) := by
  rw [ask_apply]
  cases hfresh : l.own.isFresh l.gateway.clock with
  | true =>
    rw [ensureLoaded_of_isFresh hfresh]
    refine ⟨[.begin t], (ofLinked l).move t (.answered (l.own.answer (query t))), ?_, ?_⟩
    · simp [run, step, ofLinked, hfresh]
    · simp [EndsAs, move, ofLinked]
  | false =>
    rw [ensureLoaded_of_not_isFresh hfresh]
    obtain ⟨events, last, hrun, hends⟩ := exists_run_load
      (s := ((ofLinked l).move t .waiting).beginLoad t) l rfl rfl (by simp [beginLoad, move, call])
    refine ⟨.begin t :: .enter t :: events, last, ?_, hends⟩
    have hbegin : (ofLinked l).step query (.begin t) = some ((ofLinked l).move t .waiting) := by
      simp [step, ofLinked, hfresh]
    have henter : ((ofLinked l).move t .waiting).step query (.enter t) =
        some (((ofLinked l).move t .waiting).beginLoad t) := by
      simp [step, ofLinked, move, hfresh]
    simp only [run, hbegin, henter, hrun]

end BindingCache.Room
end ClusterAccess
