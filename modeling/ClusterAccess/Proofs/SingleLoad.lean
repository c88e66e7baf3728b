/-
  ClusterAccess.Proofs.SingleLoad

  What holds at every moment of every run of concurrent queries: only the query
  with the lock loads, and every answer is from the two whole lists of one load. If
  a load counts for ever, the first one that is published is the last one, and no
  list call is made behind it.
-/
import ClusterAccess.Proofs.ConcurrentQueries

namespace ClusterAccess.BindingCache

/-! ## The invariant -/

/-- A cache holds the two lists of a load. -/
def Holds (c : BindingCache) (load : Load) : Prop :=
  c.roleBindings = load.roleBindings.items ∧
    c.clusterRoleBindings = load.clusterRoleBindings.items

/-- What a stage says about the pages that were read and about the loads that were published. -/
def Stage.Sound (loads : List Load) (q : Query) : Stage → Prop
  | .readingRoleBindings read place => read.Reaches place
  | .readingClusterRoleBindings roleBindings read place =>
    roleBindings.IsWhole ∧ read.Reaches place
  | .answered answer => ∃ load ∈ loads, answer = load.answer q
  | _ => True

/-- What holds at every moment. -/
structure Room.Inv (query : Nat → Query) (ttl : Nat) (s : Room) : Prop where
  ttl_eq : s.cache.ttl = ttl
  /-- Who loads has the lock, and who has the lock loads. -/
  loading_iff : ∀ t, (s.stage t).isLoading ↔ s.holder = some t
  sound : ∀ t, (s.stage t).Sound s.loads (query t)
  whole : ∀ load ∈ s.loads, load.IsWhole
  loadCount_eq : s.cache.loadCount = s.loads.length
  /-- A load that may count was published. -/
  held : s.cache.loaded → ∃ load ∈ s.loads, s.cache.Holds load
  /-- A load that counts for ever ends all loading. -/
  settled : ttl = 0 → s.loads ≠ [] → s.cache.loaded ∧ s.holder = none ∧ s.loads.length = 1

variable {query : Nat → Query} {ttl : Nat} {s next : Room} {t : Nat}

/-- An answer from a cache that holds a load is the answer from that load. -/
theorem Holds.answer_eq {c : BindingCache} {load : Load} (h : c.Holds load) (q : Query) :
    c.answer q = load.answer q := by
  obtain ⟨hrole, hcluster⟩ := h
  cases q <;> simp only [answer, Load.answer, ofRole, confinedTo, clusterWideTo, hrole, hcluster]

/-- More loads spoil no stage. -/
theorem Stage.Sound.mono {loads : List Load} {q : Query} {stage : Stage} (h : stage.Sound loads q)
    (load : Load) : stage.Sound (loads ++ [load]) q := by
  cases stage with
  | answered answer =>
    obtain ⟨l, hl, heq⟩ := h
    exact ⟨l, List.mem_append_left _ hl, heq⟩
  | _ => exact h

namespace Room

/-! ## What a step keeps -/

/-- A load that counts for ever counts at every time. -/
theorem isFresh_of_ttl_zero {c : BindingCache} {now : Int} (httl : c.ttl = 0) (h : c.loaded) :
    c.isFresh now :=
  isFresh_iff.2 ⟨h, .inl httl⟩

/-- Where nobody has the lock, nobody loads. -/
theorem Inv.idle_of_free (h : s.Inv query ttl) (hholder : s.holder = none) (u : Nat) :
    (s.stage u).isLoading = false := by
  have hu := h.loading_iff u
  rw [hholder] at hu
  simpa using hu

/-- What holds of the stages of all queries holds behind a move if it holds of the new stage. -/
theorem forall_move {p : Nat → Stage → Prop} {stage : Stage} (hself : p t stage)
    (hother : ∀ u, u ≠ t → p u (s.stage u)) (u : Nat) : p u ((s.move t stage).stage u) := by
  by_cases hu : u = t
  · subst hu
    simpa only [move, if_true] using hself
  · simpa only [move, if_neg hu] using hother u hu

/-- A query moves to a stage in which it does not load, as before. -/
theorem Inv.move_idle (h : s.Inv query ttl) {stage : Stage} (hold : (s.stage t).isLoading = false)
    (hnew : stage.isLoading = false) (hsound : stage.Sound s.loads (query t)) :
    (s.move t stage).Inv query ttl := by
  refine { h with loading_iff := ?_, sound := ?_ }
  · refine forall_move (p := fun u stage => stage.isLoading ↔ s.holder = some u) ?_ ?_
    · rw [← h.loading_iff t, hold, hnew]
    · intro u _
      exact h.loading_iff u
  · exact forall_move (p := fun u stage => stage.Sound s.loads (query u)) hsound
      fun u _ => h.sound u

/-- A query that loads goes on to load. -/
theorem Inv.move_loading (h : s.Inv query ttl) {stage : Stage} (hold : (s.stage t).isLoading)
    (hnew : stage.isLoading) (hsound : stage.Sound s.loads (query t)) (phase : BindingPhase)
    (place : Option String) : ((s.move t stage).call phase place).Inv query ttl := by
  -- The call is noted and changes nothing that the invariant speaks of.
  refine { h with loading_iff := ?_, sound := ?_ }
  · refine forall_move (p := fun u stage => stage.isLoading ↔ s.holder = some u) ?_ ?_
    · rw [← h.loading_iff t, hold, hnew]
    · intro u _
      exact h.loading_iff u
  · exact forall_move (p := fun u stage => stage.Sound s.loads (query u)) hsound
      fun u _ => h.sound u

/-- Behind the release of a query's lock the others load as before, and it does not. -/
theorem Inv.release_iff (h : s.Inv query ttl) {stage : Stage} (hnew : stage.isLoading = false)
    (u : Nat) :
    (((s.release t).move t stage).stage u).isLoading ↔ (s.release t).holder = some u := by
  refine forall_move (s := s.release t)
    (p := fun u stage => stage.isLoading ↔ (s.release t).holder = some u) ?_ ?_ u
  · by_cases hheld : s.holder = some t
    · simp [release, hnew, hheld]
    · simp [release, hnew, hheld]
  · intro u hut
    -- A query that had no lock has nothing to give back, so the lock of another one stays.
    by_cases hheld : s.holder = some t
    · have hidle : ¬ (s.stage u).isLoading := by
        rw [h.loading_iff u, hheld]
        simp [Ne.symm hut]
      simp [release, hheld, hidle]
    · simp only [release, if_neg hheld]
      exact h.loading_iff u

/-- A query ends without an answer and gives the lock back. -/
theorem Inv.leave (h : s.Inv query ttl) {stage : Stage} (hnew : stage.isLoading = false)
    (hsound : stage.Sound s.loads (query t)) : ((s.release t).move t stage).Inv query ttl := by
  refine { h with loading_iff := h.release_iff hnew, sound := ?_, settled := ?_ }
  · exact forall_move (s := s.release t) (p := fun u stage => stage.Sound s.loads (query u)) hsound
      fun u _ => h.sound u
  · intro httl hloads
    obtain ⟨hloaded, hholder, hlength⟩ := h.settled httl hloads
    exact ⟨hloaded, by simp [move, release, hholder], hlength⟩

/-- A query answers from a load that counts. -/
theorem Inv.move_answered (h : s.Inv query ttl) (hold : (s.stage t).isLoading = false)
    (hfresh : s.cache.isFresh s.clock) :
    (s.move t (.answered (s.cache.answer (query t)))).Inv query ttl := by
  obtain ⟨load, hload, hholds⟩ := h.held (loaded_of_isFresh hfresh)
  exact h.move_idle hold rfl ⟨load, hload, hholds.answer_eq (query t)⟩

/-- A query begins to load: nobody else does, and no load counts for ever. -/
theorem Inv.beginLoad (h : s.Inv query ttl) (hholder : s.holder = none)
    (hfresh : ¬ s.cache.isFresh s.clock) : (s.beginLoad t).Inv query ttl := by
  have hidle := h.idle_of_free hholder
  refine { ttl_eq := h.ttl_eq, loading_iff := ?_, sound := ?_, whole := h.whole
           loadCount_eq := h.loadCount_eq, held := ?_, settled := ?_ }
  · refine forall_move (p := fun u stage => stage.isLoading ↔ some t = some u) ?_ ?_
    · simp [Stage.isLoading]
    · intro u hu
      simp [hidle u, Ne.symm hu]
  · exact forall_move (p := fun u stage => stage.Sound s.loads (query u))
      Transcript.Reaches.start fun u _ => h.sound u
  · -- The mark is taken away before the first call.
    intro hloaded
    cases hloaded
  · intro httl hloads
    have hloaded := (h.settled httl hloads).1
    exact absurd (isFresh_of_ttl_zero (h.ttl_eq.trans httl) hloaded) hfresh

/-- A query publishes a load of two whole lists, and answers from it. -/
theorem Inv.finishLoad (h : s.Inv query ttl) {load : Load} (hold : (s.stage t).isLoading)
    (hwhole : load.IsWhole) : (s.finishLoad query t load).Inv query ttl := by
  have hholder : s.holder = some t := (h.loading_iff t).1 hold
  have hloads : load ∈ s.loads ++ [load] := List.mem_append_right _ (List.mem_singleton_self _)
  refine { ttl_eq := h.ttl_eq, loading_iff := h.release_iff rfl, sound := ?_, whole := ?_
           loadCount_eq := ?_, held := ?_, settled := ?_ }
  · exact forall_move (p := fun u stage => stage.Sound (s.loads ++ [load]) (query u))
      ⟨load, hloads, Holds.answer_eq ⟨rfl, rfl⟩ (query t)⟩ fun u _ => (h.sound u).mono load
  · intro l hl
    rcases List.mem_append.1 hl with hl | hl
    · exact h.whole l hl
    · rw [List.mem_singleton.1 hl]
      exact hwhole
  · simp [Room.finishLoad, move, release, publish, h.loadCount_eq]
  · intro _
    exact ⟨load, hloads, rfl, rfl⟩
  · intro httl _
    -- Behind a load that counts for ever the lock would be free; this query has it.
    have hnone : s.loads = [] := by
      by_cases hsome : s.loads = []
      · exact hsome
      · have hfree := (h.settled httl hsome).2.1
        rw [hholder] at hfree
        cases hfree
    refine ⟨rfl, ?_, ?_⟩
    · simp [Room.finishLoad, move, release, hholder]
    · simp [Room.finishLoad, move, release, hnone]

/-- Whatever happens keeps the invariant. -/
theorem Inv.step (h : s.Inv query ttl) {e : Event} (hstep : s.step query e = some next) :
    next.Inv query ttl := by
  cases e with
  | begin t =>
    simp only [Room.step] at hstep
    split at hstep
    next hstage =>
      split at hstep
      next hfresh =>
        cases hstep
        exact h.move_answered (by rw [hstage]; rfl) hfresh
      next hfresh =>
        -- It waits for the lock, and holds nothing yet.
        cases hstep
        exact h.move_idle (by rw [hstage]; rfl) rfl trivial
    next => cases hstep
  | enter t =>
    simp only [Room.step] at hstep
    split at hstep
    next hstage hholder =>
      split at hstep
      next hfresh =>
        cases hstep
        exact h.move_answered (by rw [hstage]; rfl) hfresh
      next hfresh =>
        cases hstep
        exact h.beginLoad hholder hfresh
    next => cases hstep
  | roleBindings t page =>
    simp only [Room.step] at hstep
    split at hstep
    next read place hstage =>
      have hread : read.Reaches place := by simpa only [hstage, Stage.Sound] using h.sound t
      have hold : (s.stage t).isLoading := by rw [hstage]; rfl
      split at hstep
      next behind hbehind =>
        cases hstep
        have hsound : Stage.Sound s.loads (query t)
            (.readingRoleBindings (read ++ [(place, page)]) (some behind)) := hread.next hbehind
        exact h.move_loading hold rfl hsound _ _
      next hend =>
        -- The first list is whole, and the second one is begun.
        cases hstep
        have hsound : Stage.Sound s.loads (query t)
            (.readingClusterRoleBindings (read ++ [(place, page)]) [] none) :=
          ⟨⟨read, place, page, rfl, hread, hend⟩, .start⟩
        exact h.move_loading hold rfl hsound _ _
    next => cases hstep
  | clusterRoleBindings t page =>
    simp only [Room.step] at hstep
    split at hstep
    next roleBindings read place hstage =>
      obtain ⟨hwhole, hread⟩ : roleBindings.IsWhole ∧ read.Reaches place := by
        simpa only [hstage, Stage.Sound] using h.sound t
      have hold : (s.stage t).isLoading := by rw [hstage]; rfl
      split at hstep
      next behind hbehind =>
        cases hstep
        have hsound : Stage.Sound s.loads (query t)
            (.readingClusterRoleBindings roleBindings (read ++ [(place, page)]) (some behind)) :=
          ⟨hwhole, hread.next hbehind⟩
        exact h.move_loading hold rfl hsound _ _
      next hend =>
        cases hstep
        exact h.finishLoad hold ⟨hwhole, read, place, page, rfl, hread, hend⟩
    next => cases hstep
  | fail t fault =>
    simp only [Room.step] at hstep
    split at hstep
    · cases hstep
      exact h.leave rfl trivial
    · cases hstep
  | cancel t =>
    simp only [Room.step] at hstep
    split at hstep
    · cases hstep
    · cases hstep
      exact h.leave rfl trivial
  | tick now =>
    cases hstep
    exact { h with }

/-- A run keeps the invariant. -/
theorem Inv.run (h : s.Inv query ttl) {events : List Event}
    (hrun : s.run query events = some next) : next.Inv query ttl := by
  induction events generalizing s with
  | nil =>
    cases hrun
    exact h
  | cons e es ih =>
    simp only [Room.run] at hrun
    split at hrun
    next after hstep => exact ih (h.step hstep) hrun
    next => cases hrun

/-- A cache that nobody has asked yet. -/
def fresh (ttl : Nat) (clock : Int) : Room where
  cache := { ttl }
  clock

theorem inv_fresh (query : Nat → Query) (ttl : Nat) (clock : Int) :
    (fresh ttl clock).Inv query ttl where
  ttl_eq := rfl
  loading_iff t := by simp [fresh, Stage.isLoading]
  sound t := trivial
  whole load hload := by cases hload
  loadCount_eq := rfl
  held hloaded := by cases hloaded
  settled _ hloads := absurd rfl hloads

/-! ## Behind a load that counts for ever -/

/-- Behind a load that counts for ever no step makes a list call, and the load stays. -/
theorem Inv.calls_step (h : s.Inv query 0) (hloads : s.loads ≠ []) {e : Event}
    (hstep : s.step query e = some next) : next.calls = s.calls ∧ next.loads ≠ [] := by
  obtain ⟨hloaded, hholder, -⟩ := h.settled rfl hloads
  have hfresh : s.cache.isFresh s.clock := isFresh_of_ttl_zero h.ttl_eq hloaded
  have hidle := h.idle_of_free hholder
  -- Calls are made by queries that load or begin to, and both are ruled out.
  cases e with
  | begin t =>
    simp only [Room.step, hfresh, if_true] at hstep
    split at hstep
    · cases hstep
      exact ⟨rfl, hloads⟩
    · cases hstep
  | enter t =>
    simp only [Room.step, hfresh, if_true] at hstep
    split at hstep
    · cases hstep
      exact ⟨rfl, hloads⟩
    · cases hstep
  | roleBindings t page =>
    simp only [Room.step] at hstep
    split at hstep
    next read place hstage =>
      have hload := hidle t
      rw [hstage] at hload
      cases hload
    next => cases hstep
  | clusterRoleBindings t page =>
    simp only [Room.step] at hstep
    split at hstep
    next roleBindings read place hstage =>
      have hload := hidle t
      rw [hstage] at hload
      cases hload
    next => cases hstep
  | fail t fault =>
    simp only [Room.step, hidle t] at hstep
    cases hstep
  | cancel t =>
    simp only [Room.step] at hstep
    split at hstep
    · cases hstep
    · cases hstep
      exact ⟨rfl, hloads⟩
  | tick now =>
    cases hstep
    exact ⟨rfl, hloads⟩

/-- Behind a load that counts for ever no run makes a list call. -/
theorem Inv.calls_run (h : s.Inv query 0) (hloads : s.loads ≠ []) {events : List Event}
    (hrun : s.run query events = some next) : next.calls = s.calls := by
  induction events generalizing s with
  | nil =>
    cases hrun
    rfl
  | cons e es ih =>
    simp only [Room.run] at hrun
    split at hrun
    next after hstep =>
      obtain ⟨hcalls, hafter⟩ := h.calls_step hloads hstep
      exact (ih (h.step hstep) hafter hrun).trans hcalls
    next => cases hrun

/-! ## At every moment -/

/-- At every moment of every run, at most one query loads; whoever has been answered was answered
    from the two whole lists of one published load; and the cache has counted the published loads.
    If a load counts for ever there is at most one, and behind it no list call is made. -/
theorem single_load_of_run (query : Nat → Query) (ttl : Nat) (clock : Int)
    (before after : List Event) (s later : Room)
    (hbefore : (fresh ttl clock).run query before = some s)
    (hafter : s.run query after = some later) :
    (∀ t u, (s.stage t).isLoading → (s.stage u).isLoading → t = u) ∧
      (∀ t answer, s.stage t = .answered answer →
        ∃ load ∈ s.loads, load.IsWhole ∧ answer = load.answer (query t)) ∧
      s.cache.loadCount = s.loads.length ∧
      (ttl = 0 → s.loads.length ≤ 1 ∧ (s.loads ≠ [] → later.calls = s.calls)) := by
  have h := (inv_fresh query ttl clock).run hbefore
  refine ⟨?_, ?_, h.loadCount_eq, ?_⟩
  · -- There is one lock.
    intro t u ht hu
    have hholder := (h.loading_iff t).1 ht
    rw [(h.loading_iff u).1 hu] at hholder
    exact (Option.some.inj hholder).symm
  · intro t answer hstage
    have hsound := h.sound t
    rw [hstage] at hsound
    obtain ⟨load, hload, heq⟩ := hsound
    exact ⟨load, hload, h.whole load hload, heq⟩
  · intro httl
    subst httl
    refine ⟨?_, fun hloads => h.calls_run hloads hafter⟩
    by_cases hloads : s.loads = []
    · simp [hloads]
    · exact Nat.le_of_eq (h.settled rfl hloads).2.2

/-- Queries for one role of the namespace `team-a`. -/
def readerQuery (_ : Nat) : Query :=
  .role "team-a" "reader"

/-- The first query is cancelled between two pages, the second one takes over and is answered, and
    so is the third one, which waited. -/
def handover : List Event := [
  .begin 0, .begin 1, .enter 0,
  .roleBindings 0 { items := [⟨"rb-0", "team-a", ⟨"Role", "reader", ""⟩, []⟩], next := some "1" },
  .begin 2, .cancel 0, .enter 1,
  .roleBindings 1 { items := [⟨"rb-0", "team-a", ⟨"Role", "reader", ""⟩, []⟩], next := some "1" },
  .roleBindings 1 { items := [⟨"rb-1", "team-a", ⟨"Role", "reader", ""⟩, []⟩] },
  .clusterRoleBindings 1 {}, .enter 2]

theorem single_load_of_handover :
    ∃ s later, (fresh 0 0).run readerQuery handover = some s ∧
      s.run readerQuery [.begin 3] = some later ∧ s.loads ≠ [] ∧
      (∀ t u, (s.stage t).isLoading → (s.stage u).isLoading → t = u) ∧
      (∀ t answer, s.stage t = .answered answer →
        ∃ load ∈ s.loads, load.IsWhole ∧ answer = load.answer (readerQuery t)) ∧
      s.cache.loadCount = s.loads.length ∧ s.loads.length ≤ 1 ∧ later.calls = s.calls := by
  obtain ⟨s, hs⟩ : ∃ s, (fresh 0 0).run readerQuery handover = some s := ⟨_, rfl⟩
  obtain ⟨later, hlater⟩ : ∃ later, s.run readerQuery [.begin 3] = some later := by
    cases hs
    exact ⟨_, rfl⟩
  have hloads : s.loads ≠ [] := by
    cases hs
    decide
  obtain ⟨hone, hanswers, hcount, hkept⟩ :=
    single_load_of_run readerQuery 0 0 handover [.begin 3] s later hs hlater
  exact ⟨s, later, hs, hlater, hloads, hone, hanswers, hcount, (hkept rfl).1,
    (hkept rfl).2 hloads⟩

end Room
end ClusterAccess.BindingCache
