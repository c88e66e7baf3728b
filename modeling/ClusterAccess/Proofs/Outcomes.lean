/-
  ClusterAccess.Proofs.Outcomes

  Actions whose outcome depends on nothing but an invariant of their state: from
  every state with it they give the same answer, and it holds again behind the
  answer, or they fail with the same fault. No such fault is that a list never
  ends.
-/
import ClusterAccess.Proofs.Actions

namespace ClusterAccess

namespace Action

variable {σ τ α β : Type} {P : σ → Prop} {act : Action σ α} {x : Except Fault α}

/-- An action has ended with an outcome: with its answer, and `P` of the state behind it, or with
its fault, which is not that a list never ends. -/
def EndsAs (P : σ → Prop) (x : Except Fault α) : EStateM.Result Fault σ α → Prop
  | .ok a s => x = .ok a ∧ P s
  | .error e _ => x = .error e ∧ e ≠ .endless

theorem EndsAs.mono {P' : σ → Prop} {result : EStateM.Result Fault σ α} (h : EndsAs P x result)
    (hP : ∀ s, P s → P' s) : EndsAs P' x result := by
  cases result with
  | ok a s => exact ⟨h.1, hP s h.2⟩
  | error e s => exact h

theorem endsAs_error {s s' : σ} {e : Fault} (hrun : act s = .error e s') (hne : e ≠ .endless) :
    EndsAs P (.error e) (act s) := by
  rw [hrun]
  exact ⟨rfl, hne⟩

/-- From every state with `P`, an action ends with the same outcome. -/
def ComesTo (P : σ → Prop) (act : Action σ α) (x : Except Fault α) : Prop :=
  ∀ s, P s → EndsAs P x (act s)

/-- An action that comes to an answer gives it. -/
theorem ComesTo.eq_ok {a : α} (h : ComesTo P act (.ok a)) {s : σ} (hs : P s) :
    ∃ s', act s = .ok a s' ∧ P s' := by
  have hends := h s hs
  cases hrun : act s with
  | ok a' s' =>
    rw [hrun] at hends
    obtain ⟨heq, hs'⟩ := hends
    cases heq
    exact ⟨s', rfl, hs'⟩
  | error e s' =>
    rw [hrun] at hends
    cases hends.1

/-- An action that comes to a fault fails with it. -/
theorem ComesTo.eq_error {e : Fault} (h : ComesTo P act (.error e)) {s : σ} (hs : P s) :
    ∃ s', act s = .error e s' := by
  have hends := h s hs
  cases hrun : act s with
  | ok a s' =>
    rw [hrun] at hends
    cases hends.1
  | error e' s' =>
    rw [hrun] at hends
    cases hends.1
    exact ⟨s', rfl⟩

/-- What an action comes to is its outcome, and never that a list goes on for ever. -/
theorem ComesTo.outcome_eq (h : ComesTo P act x) {s : σ} (hs : P s) :
    (act.outcome s).1 = x ∧ x ≠ .error .endless := by
  have hends := h s hs
  rw [Action.outcome]
  cases hrun : act s with
  | ok a s' =>
    rw [hrun] at hends
    obtain ⟨rfl, -⟩ := hends
    refine ⟨rfl, fun heq => ?_⟩
    cases heq
  | error e s' =>
    rw [hrun] at hends
    obtain ⟨rfl, hne⟩ := hends
    exact ⟨rfl, fun heq => hne (Except.error.inj heq)⟩

/-! ## Constructs -/

theorem comesTo_pure (a : α) : ComesTo P (pure a) (.ok a) :=
  fun _ hs => ⟨rfl, hs⟩

theorem comesTo_modify {f : σ → σ} (h : ∀ s, P s → P (f s)) :
    ComesTo P (modify f) (.ok ⟨⟩) :=
  fun s hs => ⟨rfl, h s hs⟩

theorem comesTo_ofExcept {ε : Type} (wrap : ε → Fault) (hwrap : ∀ e, wrap e ≠ .endless)
    (y : Except ε α) : ComesTo P (ofExcept wrap y) (y.mapError wrap) := by
  intro s hs
  cases y with
  | ok a => exact ⟨rfl, hs⟩
  | error e => exact ⟨rfl, hwrap e⟩

/-- An action that goes by its state, and yet comes to the same from every one. -/
theorem comesTo_get_bind {f : σ → Action σ α} (h : ∀ s, P s → ComesTo P (f s) x) :
    ComesTo P (get >>= f) x := by
  intro s hs
  rw [bind_apply, get_apply]
  exact h s hs s hs

/-- Where the first action answers, the second one goes on with the answer. -/
theorem EndsAs.bind {f : α → Action σ β} {k : α → Except Fault β} {s : σ}
    (h : EndsAs P x (act s)) (hf : ∀ a, x = .ok a → ComesTo P (f a) (k a)) :
    EndsAs P (x >>= k) ((act >>= f) s) := by
  rw [bind_apply]
  cases hrun : act s with
  | ok a s' =>
    rw [hrun] at h
    obtain ⟨rfl, hs'⟩ := h
    exact hf a rfl s' hs'
  | error e s' =>
    rw [hrun] at h
    obtain ⟨rfl, hne⟩ := h
    exact ⟨rfl, hne⟩

theorem ComesTo.bind {f : α → Action σ β} {k : α → Except Fault β} (h : ComesTo P act x)
    (hf : ∀ a, x = .ok a → ComesTo P (f a) (k a)) : ComesTo P (act >>= f) (x >>= k) :=
  fun s hs => (h s hs).bind hf

theorem ComesTo.map (h : ComesTo P act x) (f : α → β) : ComesTo P (f <$> act) (x.map f) := by
  have hbind : x.map f = x >>= fun a => .ok (f a) := by cases x <;> rfl
  rw [map_eq_pure_bind, hbind]
  exact h.bind fun a _ => comesTo_pure (f a)

/-- An action on a part of a state ends as an action on the whole does. -/
theorem EndsAs.onPart {get : τ → σ} {put : σ → τ → τ} {P' : τ → Prop} {t : τ}
    (h : EndsAs P x (act (get t))) (hput : ∀ s, P s → P' (put s t)) :
    EndsAs P' x (act.onPart get put t) := by
  rw [Action.onPart]
  cases hrun : act (get t) with
  | ok a s =>
    rw [hrun] at h
    exact ⟨h.1, hput s h.2⟩
  | error e s =>
    rw [hrun] at h
    exact h

theorem ComesTo.onPart {get : τ → σ} {put : σ → τ → τ} {P' : τ → Prop} (h : ComesTo P act x)
    (hget : ∀ t, P' t → P (get t)) (hput : ∀ s t, P s → P' t → P' (put s t)) :
    ComesTo P' (act.onPart get put) x :=
  fun t ht => (h (get t) (hget t ht)).onPart fun s hs => hput s t hs ht

/-- Actions on the elements of a list, one after the other. -/
theorem ComesTo.mapM {f : α → Action σ β} {k : α → Except Fault β} {xs : List α}
    (h : ∀ a ∈ xs, ComesTo P (f a) (k a)) : ComesTo P (xs.mapM f) (xs.mapM k) := by
  induction xs with
  | nil => exact comesTo_pure []
  | cons a xs ih =>
    rw [List.mapM_cons, List.mapM_cons]
    refine (h a List.mem_cons_self).bind fun b _ => ?_
    refine (ih fun a' ha' => h a' (List.mem_cons_of_mem a ha')).bind fun bs _ => ?_
    exact comesTo_pure (b :: bs)

end Action

/-! ## Following a list -/

namespace Gateway

variable {σ τ α : Type} {fetch : Option String → Action σ (Page α)} {get : τ → σ}
  {put : σ → τ → τ}

/-- A list whose first page fails is not followed any further. -/
theorem followFrom_eq_error {fuel : Nat} {token : Option String} {s s' : σ} {e : Fault}
    (h : fetch token s = .error e s') (hfuel : 0 < fuel) (collected : List α) :
    followFrom fetch fuel collected token s = .error e s' := by
  obtain ⟨fuel, rfl⟩ : ∃ k, fuel = k + 1 := ⟨fuel - 1, by omega⟩
  rw [followFrom, Action.bind_apply, h]

/-- Whether a part of a state or the whole is carried from page to page makes no difference. -/
theorem followFrom_onPart (hsame : ∀ t, put (get t) t = t) (hget : ∀ s t, get (put s t) = s)
    (hput : ∀ s s' t, put s' (put s t) = put s' t) (fuel : Nat) (collected : List α)
    (token : Option String) (t : τ) :
    followFrom (fun token => (fetch token).onPart get put) fuel collected token t =
      (followFrom fetch fuel collected token).onPart get put t := by
  induction fuel generalizing collected token t with
  | zero =>
    show EStateM.Result.error Fault.endless t = EStateM.Result.error Fault.endless (put (get t) t)
    rw [hsame]
  | succ fuel ih =>
    rw [followFrom, followFrom, Action.bind_apply]
    simp only [Action.onPart, Action.bind_apply]
    cases fetch token (get t) with
    | error e s => rfl
    | ok page s =>
      cases hnext : page.next with
      | none => simp only [hnext, Action.pure_apply]
      | some next =>
        simp only [hnext]
        rw [ih, Action.onPart, hget]
        cases followFrom fetch fuel (collected ++ page.items) (some next) s with
        | ok found s' => simp only [hput]
        | error e s' => simp only [hput]

end Gateway
end ClusterAccess
