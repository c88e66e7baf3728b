/-
  ClusterAccess.Proofs.GatewayCalls

  What calls leave behind, whether they are answered or fail: the server, the size
  of pages and the time stay, and the calls are noted in the order in which they
  were made. A list is read page by page, each call asking for the place at which
  the page before it ended.
-/
import ClusterAccess.Proofs.Actions

namespace ClusterAccess

/-! ## However an action ends -/

namespace Action

variable {σ τ α β : Type} {R : σ → σ → Prop}

/-- However an action has ended, a predicate holds of the state behind it. -/
def Lands (P : σ → Prop) : EStateM.Result Fault σ α → Prop
  | .ok _ s => P s
  | .error _ s => P s

/-- However an action ends, the state behind it stands in a relation to the one before it. -/
def Keeps (R : σ → σ → Prop) (act : Action σ α) : Prop :=
  ∀ s, Lands (R s) (act s)

theorem Keeps.of_ok {act : Action σ α} (h : Keeps R act) {s s' : σ} {a : α}
    (hrun : act s = .ok a s') : R s s' := by
  have hs := h s
  rwa [hrun] at hs

theorem Keeps.of_error {act : Action σ α} (h : Keeps R act) {s s' : σ} {e : Fault}
    (hrun : act s = .error e s') : R s s' := by
  have hs := h s
  rwa [hrun] at hs

theorem Keeps.outcome {act : Action σ α} (h : Keeps R act) (s : σ) : R s (act.outcome s).2 := by
  rw [Action.outcome]
  cases hrun : act s with
  | ok a s' => exact h.of_ok hrun
  | error e s' => exact h.of_error hrun

theorem Keeps.mono {R' : σ → σ → Prop} {act : Action σ α} (h : Keeps R act)
    (hR : ∀ s s', R s s' → R' s s') : Keeps R' act := by
  intro s
  cases hrun : act s with
  | ok a s' => exact hR s s' (h.of_ok hrun)
  | error e s' => exact hR s s' (h.of_error hrun)

theorem keeps_pure (hrefl : ∀ s, R s s) (a : α) : Keeps R (pure a) := hrefl

theorem keeps_get (hrefl : ∀ s, R s s) : Keeps R get := hrefl

theorem keeps_throw (hrefl : ∀ s, R s s) (e : Fault) : Keeps R (throw e : Action σ α) := hrefl

theorem keeps_modify {f : σ → σ} (h : ∀ s, R s (f s)) : Keeps R (modify f) := h

theorem keeps_ofExcept (hrefl : ∀ s, R s s) {ε : Type} (wrap : ε → Fault) (x : Except ε α) :
    Keeps R (ofExcept wrap x) := by
  cases x with
  | ok a => exact keeps_pure hrefl a
  | error e => exact keeps_throw hrefl (wrap e)

theorem Keeps.bind {act : Action σ α} {f : α → Action σ β}
    (htrans : ∀ {r s t}, R r s → R s t → R r t) (h : Keeps R act) (hf : ∀ a, Keeps R (f a)) :
    Keeps R (act >>= f) := by
  intro s
  rw [bind_apply]
  cases hrun : act s with
  | error e s' => exact h.of_error hrun
  | ok a s' =>
    have hfirst := h.of_ok hrun
    simp only
    cases hrest : f a s' with
    | ok b s'' => exact htrans hfirst ((hf a).of_ok hrest)
    | error e s'' => exact htrans hfirst ((hf a).of_error hrest)

theorem Keeps.mapM (hrefl : ∀ s, R s s) (htrans : ∀ {r s t}, R r s → R s t → R r t)
    {f : α → Action σ β} (h : ∀ a, Keeps R (f a)) (xs : List α) : Keeps R (xs.mapM f) := by
  induction xs with
  | nil => exact keeps_pure hrefl _
  | cons x xs ih =>
    rw [List.mapM_cons]
    exact Keeps.bind htrans (h x) fun _ => Keeps.bind htrans ih fun _ => keeps_pure hrefl _

/-- An action that goes by the state it starts from. -/
theorem keeps_get_bind {f : σ → Action σ α} (h : ∀ s, Lands (R s) (f s s)) :
    Keeps R (get >>= f) := by
  intro s
  rw [bind_apply, get_apply]
  exact h s

theorem lands_onPart {get : τ → σ} {put : σ → τ → τ} {act : Action σ α} {P : σ → Prop}
    {P' : τ → Prop} {t : τ} (h : Lands P (act (get t))) (hput : ∀ s, P s → P' (put s t)) :
    Lands P' (act.onPart get put t) := by
  rw [onPart]
  cases hrun : act (get t) with
  | ok a s =>
    rw [hrun] at h
    exact hput s h
  | error e s =>
    rw [hrun] at h
    exact hput s h

theorem Keeps.onPart {get : τ → σ} {put : σ → τ → τ} {R' : τ → τ → Prop} {act : Action σ α}
    (h : Keeps R act) (hput : ∀ t s, R (get t) s → R' t (put s t)) :
    Keeps R' (act.onPart get put) :=
  fun t => lands_onPart (h (get t)) (hput t)

end Action

/-! ## A gateway -/

namespace Gateway

open ClusterAccess.Action

variable {α β : Type}

/-! ## From outside -/

/-- What happens to a gateway while nobody calls. -/
inductive Incident
  /-- Time passes. -/
  | wait (seconds : Nat)
  /-- The cluster is another one from now on. -/
  | change (server : Server)
  /-- One more failure is to come. -/
  | arm (failure : ArmedFailure)

/-- The gateway after an incident. -/
def undergo (g : Gateway) : Incident → Gateway
  | .wait seconds => { g with clock := g.clock + seconds }
  | .change server => { g with server }
  | .arm failure => { g with failures := g.failures ++ [failure] }

/-- Time never goes back. -/
theorem clock_le_undergo (g : Gateway) (i : Incident) : g.clock ≤ (g.undergo i).clock := by
  cases i with
  | wait seconds =>
    simp only [undergo]
    omega
  | change server => exact Int.le_refl _
  | arm failure => exact Int.le_refl _

/-! ## What stays -/

/-- At most the connection, the calls made and the failures to come are different. -/
structure Steady (g g' : Gateway) : Prop where
  server_eq : g'.server = g.server
  pageSize_eq : g'.pageSize = g.pageSize
  clock_eq : g'.clock = g.clock
  now_eq : g'.now = g.now

theorem Steady.refl (g : Gateway) : Steady g g := ⟨rfl, rfl, rfl, rfl⟩

theorem Steady.trans {g g' g'' : Gateway} (h : Steady g g') (h' : Steady g' g'') :
    Steady g g'' where
  server_eq := h'.server_eq.trans h.server_eq
  pageSize_eq := h'.pageSize_eq.trans h.pageSize_eq
  clock_eq := h'.clock_eq.trans h.clock_eq
  now_eq := h'.now_eq.trans h.now_eq

/-- However an action ends, it leaves the gateway steady. -/
abbrev IsSteady (act : Fetch α) : Prop :=
  Keeps Steady act

theorem IsSteady.bind {act : Fetch α} {f : α → Fetch β} (h : IsSteady act)
    (hf : ∀ a, IsSteady (f a)) : IsSteady (act >>= f) :=
  Keeps.bind Steady.trans h hf

theorem isSteady_pure (a : α) : IsSteady (pure a) :=
  keeps_pure Steady.refl a

theorem isSteady_get : IsSteady get :=
  keeps_get Steady.refl

theorem isSteady_ofExcept {ε : Type} (wrap : ε → Fault) (x : Except ε α) :
    IsSteady (Action.ofExcept wrap x) :=
  keeps_ofExcept Steady.refl wrap x

theorem isSteady_connect : IsSteady connect := by
  intro g
  unfold connect
  cases g.connection.pending with
  | none => exact .refl g
  | some outcome => cases outcome <;> exact ⟨rfl, rfl, rfl, rfl⟩

/-! ## One call -/

variable {g g' : Gateway}

theorem steady_note (call : Call) (g : Gateway) : Steady g (note call g).2 := ⟨rfl, rfl, rfl, rfl⟩

theorem isSteady_callServer (call : Call) (serve : Server → Except CallFailure α) :
    IsSteady (callServer call serve) := by
  intro g
  unfold callServer
  cases (note call g).1 with
  | some failure => exact steady_note call g
  | none => cases serve g.server <;> exact steady_note call g

theorem isSteady_place (call : Call) (serve : Server → Except CallFailure α) :
    IsSteady (place call serve) :=
  isSteady_connect.bind fun _ => isSteady_callServer call serve

theorem calls_connect (g : Gateway) :
    match connect g with
      | .ok _ g' => g'.calls = g.calls
      | .error _ g' => g'.calls = g.calls := by
  unfold connect
  cases g.connection.pending with
  | none => rfl
  | some outcome => cases outcome <;> rfl

/-- An answered call was noted, and answered by the server. -/
theorem place_ok {call : Call} {serve : Server → Except CallFailure α} {answer : α}
    (h : place call serve g = .ok answer g') :
    serve g.server = .ok answer ∧ g'.calls = g.calls ++ [call] := by
  rw [place, Action.bind_apply] at h
  have hcalls := calls_connect g
  cases hconnect : connect g with
  | error e g₁ =>
    rw [hconnect] at h
    cases h
  | ok _ g₁ =>
    rw [hconnect] at h hcalls
    simp only [callServer] at h
    rw [← (isSteady_connect.of_ok hconnect).server_eq, ← hcalls]
    split at h
    · cases h
    · split at h
      next served hserve =>
        cases h
        exact ⟨hserve, rfl⟩
      next => cases h

/-- A call that failed was noted, unless the connection could not even be configured. -/
theorem place_error {call : Call} {serve : Server → Except CallFailure α} {e : Fault}
    (h : place call serve g = .error e g') :
    g'.calls = g.calls ∨ g'.calls = g.calls ++ [call] := by
  rw [place, Action.bind_apply] at h
  have hcalls := calls_connect g
  cases hconnect : connect g with
  | error e g₁ =>
    rw [hconnect] at h hcalls
    cases h
    exact .inl hcalls
  | ok _ g₁ =>
    rw [hconnect] at h hcalls
    simp only [callServer] at h
    refine .inr ?_
    rw [← hcalls]
    split at h
    · cases h
      rfl
    · split at h
      · cases h
      · cases h
        rfl

/-! ## One page -/

theorem isSteady_listPage (name : ListName) (serve : Server → ListCall → Answer α)
    (resume : Option String) (limit : Option Int) :
    IsSteady (listPage name serve resume limit) := by
  refine isSteady_get.bind fun g => (isSteady_place _ _).bind fun answer => ?_
  exact (isSteady_ofExcept _ _).bind fun items => isSteady_pure _

theorem eq_map_of_mapM_ok {items : List (Manifest.Reading α)} {read : List α}
    (h : items.mapM id = (.ok read : Manifest.Reading _)) : items = read.map .ok := by
  induction items generalizing read with
  | nil =>
    cases h
    rfl
  | cons item items ih =>
    rw [List.mapM_cons] at h
    cases item with
    | error fault => cases h
    | ok a =>
      cases hrest : items.mapM id with
      | error fault =>
        rw [hrest] at h
        cases h
      | ok rest =>
        rw [hrest] at h
        cases h
        rw [List.map_cons, ih hrest]

variable {name : ListName} {serve : Server → ListCall → Answer α} {place : Option String}

/-- A page that was read is one of readable items that the server has at the place. -/
theorem listPage_ok {page : Page α} (h : listPage name serve place none g = .ok page g') :
    ∃ items next, serve g.server ⟨g.pageSize, placeOf place⟩ = .ok ⟨items.map .ok, next⟩ ∧
      page = ⟨items, placeOf next⟩ ∧
        g'.calls = g.calls ++ [.list name ⟨g.pageSize, placeOf place⟩] := by
  simp only [listPage, Action.bind_apply, Action.get_apply, Option.filter_none,
    Option.getD_none] at h
  split at h
  next answer g₁ hplace =>
    obtain ⟨hserve, hcalls⟩ := place_ok hplace
    rw [readAll] at h
    cases hread : answer.items.mapM id with
    | error fault =>
      rw [hread] at h
      cases h
    | ok items =>
      rw [hread] at h
      cases h
      refine ⟨items, answer.next, ?_, rfl, hcalls⟩
      rw [hserve, ← eq_map_of_mapM_ok hread]
  next => cases h

/-- A page that could not be read was asked for, unless the connection could not be configured. -/
theorem listPage_error {e : Fault} (h : listPage name serve place none g = .error e g') :
    g'.calls = g.calls ∨
      g'.calls = g.calls ++ [.list name ⟨g.pageSize, placeOf place⟩] := by
  simp only [listPage, Action.bind_apply, Action.get_apply, Option.filter_none,
    Option.getD_none] at h
  split at h
  next answer g₁ hplace =>
    -- The call was answered, but with an item that cannot be read.
    refine .inr ?_
    rw [← (place_ok hplace).2]
    rw [readAll] at h
    cases hread : answer.items.mapM id with
    | error fault =>
      rw [hread] at h
      cases h
      rfl
    | ok items =>
      rw [hread] at h
      cases h
  next e' g₁ hplace =>
    cases h
    exact place_error hplace

/-! ## Single objects -/

theorem isSteady_role (ns name : String) : IsSteady (role ns name) :=
  (isSteady_place _ _).bind fun _ => isSteady_ofExcept _ _

theorem isSteady_clusterRole (name : String) : IsSteady (clusterRole name) :=
  (isSteady_place _ _).bind fun _ => isSteady_ofExcept _ _

/-- A role that was read is the one that the server has. -/
theorem role_ok {ns name : String} {r : Role} (h : role ns name g = .ok r g') :
    g.server.role ns name = .ok (.ok r) := by
  rw [role, Action.bind_apply] at h
  split at h
  next answer g₁ hplace =>
    rw [(place_ok hplace).1]
    cases answer <;> cases h
    rfl
  next => cases h

/-- A role of the cluster that was read is the one that the server has. -/
theorem clusterRole_ok {name : String} {r : ClusterRole} (h : clusterRole name g = .ok r g') :
    g.server.clusterRole name = .ok (.ok r) := by
  rw [clusterRole, Action.bind_apply] at h
  split at h
  next answer g₁ hplace =>
    rw [(place_ok hplace).1]
    cases answer <;> cases h
    rfl
  next => cases h

/-! ## Probing -/

theorem isSteady_probe : IsSteady probe := by
  intro g
  have hsteady : IsSteady (objects .nameSpace none (some 1)) := isSteady_listPage _ _ none (some 1)
  rw [probe]
  cases hrun : objects .nameSpace none (some 1) g with
  | ok _ g' => exact hsteady.of_ok hrun
  | error e g' => cases e <;> exact hsteady.of_error hrun

/-! ## Whole lists -/

/-- However a list ends that is followed page by page, what its pages keep is kept. -/
theorem keeps_followFrom {σ : Type} {R : σ → σ → Prop} (hrefl : ∀ s, R s s)
    (htrans : ∀ {r s t}, R r s → R s t → R r t) {fetch : Option String → Action σ (Page α)}
    (hfetch : ∀ resume, Keeps R (fetch resume)) (fuel : Nat) (collected : List α)
    (resume : Option String) : Keeps R (followFrom fetch fuel collected resume) := by
  induction fuel generalizing collected resume with
  | zero => exact keeps_throw hrefl _
  | succ fuel ih =>
    refine Keeps.bind htrans (hfetch resume) fun page => ?_
    cases page.next with
    | none => exact keeps_pure hrefl _
    | some place => exact ih _ _

theorem isSteady_drain {fetch : Option String → Fetch (Page α)}
    (hfetch : ∀ resume, IsSteady (fetch resume)) : IsSteady (drain fetch) :=
  isSteady_get.bind fun _ => keeps_followFrom Steady.refl Steady.trans hfetch _ _ _

/-- From a place on, a list is read to its end by these calls, each of them answered with readable
items, and these are its items. -/
inductive ReadBy (serve : ListCall → Answer α) (limit : Int) :
    List ListCall → Option String → List α → Prop
  | last {place next : Option String} {items : List α} :
    serve ⟨limit, place⟩ = .ok ⟨items.map .ok, next⟩ → placeOf next = none →
      ReadBy serve limit [⟨limit, place⟩] place items
  | more {calls : List ListCall} {place next : Option String} {behind : String}
      {items rest : List α} :
    serve ⟨limit, place⟩ = .ok ⟨items.map .ok, next⟩ → placeOf next = some behind →
      ReadBy serve limit calls (some behind) rest →
        ReadBy serve limit (⟨limit, place⟩ :: calls) place (items ++ rest)

/-- From a place on, a list is asked for by these calls, each of them but the last one answered with
readable items, and is given up before its end. -/
inductive BrokenOff (serve : ListCall → Answer α) (limit : Int) :
    List ListCall → Option String → Prop
  | unasked {place : Option String} : BrokenOff serve limit [] place
  | unread {place : Option String} : BrokenOff serve limit [⟨limit, place⟩] place
  | later {calls : List ListCall} {place next : Option String} {behind : String}
      {items : List α} :
    serve ⟨limit, place⟩ = .ok ⟨items.map .ok, next⟩ → placeOf next = some behind →
      BrokenOff serve limit calls (some behind) →
        BrokenOff serve limit (⟨limit, place⟩ :: calls) place

/-- Calls for pages of a list. -/
def callsFor (name : ListName) (calls : List ListCall) : List Call :=
  calls.map (.list name)

/-- A list that is followed from a place on is read to its end, or broken off with a fault. -/
theorem followFrom_calls (name : ListName) (serve : Server → ListCall → Answer α) (fuel : Nat)
    (collected : List α) (g : Gateway) {place : Option String} (hplace : placeOf place = place) :
    match followFrom (fun resume => listPage name serve resume none) fuel collected place g with
      | .ok found g' => ∃ calls items, ReadBy (serve g.server) g.pageSize calls place items ∧
          found = collected ++ items ∧ g'.calls = g.calls ++ callsFor name calls
      | .error _ g' => ∃ calls, BrokenOff (serve g.server) g.pageSize calls place ∧
          g'.calls = g.calls ++ callsFor name calls := by
  -- By the fuel: the first page is one call, and the rest is followed from behind it.
  induction fuel generalizing collected place g with
  | zero => exact ⟨[], .unasked, by simp [callsFor]⟩
  | succ fuel ih =>
    rw [followFrom, Action.bind_apply]
    cases hpage : listPage name serve place none g with
    | error e g₁ =>
      rcases listPage_error hpage with hcalls | hcalls
      · exact ⟨[], .unasked, by simpa [callsFor] using hcalls⟩
      · rw [hplace] at hcalls
        exact ⟨[⟨g.pageSize, place⟩], .unread, by simpa [callsFor] using hcalls⟩
    | ok page g₁ =>
      obtain ⟨items, next, hserve, rfl, hcalls⟩ := listPage_ok hpage
      have hsteady := (isSteady_listPage name serve place none).of_ok hpage
      rw [hplace] at hserve hcalls
      cases hnext : placeOf next with
      | none => exact ⟨_, items, .last hserve hnext, rfl, by simpa [callsFor] using hcalls⟩
      | some behind =>
        have hbehind : placeOf (some behind) = some behind := by rw [← hnext, placeOf_placeOf]
        have hrest := ih (collected ++ items) g₁ hbehind
        rw [hsteady.server_eq, hsteady.pageSize_eq] at hrest
        simp only
        split at hrest
        next found g' hfollow =>
          obtain ⟨calls, rest, hread, rfl, hcalls'⟩ := hrest
          refine ⟨_, _, .more hserve hnext hread, by rw [List.append_assoc], ?_⟩
          rw [hcalls', hcalls, List.append_assoc]
          rfl
        next e g' hfollow =>
          obtain ⟨calls, hbroken, hcalls'⟩ := hrest
          refine ⟨_, .later hserve hnext hbroken, ?_⟩
          rw [hcalls', hcalls, List.append_assoc]
          rfl

/-- The end of reading a list as a whole: it has been read from its first page to its last, or has
been broken off, and either way the calls are noted. -/
def EndsRead (name : ListName) (serve : ListCall → Answer α) (g : Gateway) :
    EStateM.Result Fault Gateway (List α) → Prop
  | .ok items g' => Steady g g' ∧ ∃ calls, ReadBy serve g.pageSize calls none items ∧
      g'.calls = g.calls ++ callsFor name calls
  | .error _ g' => Steady g g' ∧ ∃ calls, BrokenOff serve g.pageSize calls none ∧
      g'.calls = g.calls ++ callsFor name calls

theorem endsRead_drain (name : ListName) (serve : Server → ListCall → Answer α) (g : Gateway) :
    EndsRead name (serve g.server) g (drain (fun resume => listPage name serve resume none) g) := by
  have hsteady := isSteady_drain (fun resume => isSteady_listPage name serve resume none) g
  have hfirst : placeOf none = none := rfl
  have h := followFrom_calls name serve g.patience [] g hfirst
  rw [drain_apply] at hsteady ⊢
  split at h
  next found g' hfollow =>
    obtain ⟨calls, items, hread, rfl, hcalls⟩ := h
    rw [hfollow] at hsteady ⊢
    exact ⟨hsteady, calls, hread, hcalls⟩
  next e g' hfollow =>
    rw [hfollow] at hsteady ⊢
    exact ⟨hsteady, h⟩

theorem endsRead_allRoleBindings (g : Gateway) :
    EndsRead .roleBindings g.server.roleBindings g (allRoleBindings g) :=
  endsRead_drain .roleBindings Server.roleBindings g

theorem endsRead_allClusterRoleBindings (g : Gateway) :
    EndsRead .clusterRoleBindings g.server.clusterRoleBindings g (allClusterRoleBindings g) :=
  endsRead_drain .clusterRoleBindings Server.clusterRoleBindings g

/-- A page of readable items is known by its items and its next place. -/
theorem eq_of_pages_eq {items items' : List α} {next next' : Option String}
    (h : (.ok ⟨items.map .ok, next⟩ : Answer α) = .ok ⟨items'.map .ok, next'⟩) :
    items = items' ∧ next = next' := by
  simp only [Except.ok.injEq, Page.mk.injEq] at h
  exact ⟨(List.map_inj_right fun _ _ => Except.ok.inj).1 h.1, h.2⟩

/-- A list has the same items however often it is read. -/
theorem ReadBy.unique {serve : ListCall → Answer α} {limit : Int} {calls calls' : List ListCall}
    {place : Option String} {items items' : List α} (h : ReadBy serve limit calls place items)
    (h' : ReadBy serve limit calls' place items') : items = items' := by
  induction h generalizing calls' items' with
  | last hserve hnext =>
    cases h' with
    | last hserve' _ => exact (eq_of_pages_eq (hserve.symm.trans hserve')).1
    | more hserve' hnext' _ =>
      rw [← (eq_of_pages_eq (hserve.symm.trans hserve')).2, hnext] at hnext'
      cases hnext'
  | more hserve hnext _ ih =>
    cases h' with
    | last hserve' hnext' =>
      rw [← (eq_of_pages_eq (hserve.symm.trans hserve')).2, hnext] at hnext'
      cases hnext'
    | more hserve' hnext' hrest' =>
      obtain ⟨hitems, hsame⟩ := eq_of_pages_eq (hserve.symm.trans hserve')
      rw [← hsame, hnext] at hnext'
      cases hnext'
      rw [hitems, ih hrest']

end Gateway
end ClusterAccess
