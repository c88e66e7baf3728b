/-
  ClusterAccess.Proofs.Actions

  What actions do, step by step: each construct of an action applied to a state,
  what an action yields while an invariant of its state holds, and lists that are
  followed page by page.
-/
import ClusterAccess.Gateway

namespace ClusterAccess

namespace Action

variable {σ τ α β : Type}

/-! ## Constructs -/

theorem bind_apply (x : Action σ α) (f : α → Action σ β) (s : σ) :
    (x >>= f) s = match x s with
      | .ok a s' => f a s'
      | .error e s' => .error e s' := by
  simp only [bind, EStateM.bind]
  cases x s <;> rfl

theorem pure_apply (a : α) (s : σ) : (pure a : Action σ α) s = .ok a s := rfl

theorem get_apply (s : σ) : (get : Action σ σ) s = .ok s s := rfl

theorem modify_apply (f : σ → σ) (s : σ) : (modify f : Action σ PUnit) s = .ok ⟨⟩ (f s) := rfl

theorem bind_eq_ok {x : Action σ α} {f : α → Action σ β} {s s' : σ} {a : α} (h : x s = .ok a s') :
    (x >>= f) s = f a s' := by
  rw [bind_apply, h]

theorem onPart_eq_ok {get : τ → σ} {put : σ → τ → τ} {act : Action σ α} {t : τ} {s : σ} {a : α}
    (h : act (get t) = .ok a s) : act.onPart get put t = .ok a (put s t) := by
  rw [onPart, h]

/-- What an action gave, and the state behind it, when its outcome is no fault. -/
theorem eq_ok_of_outcome {act : Action σ α} {s : σ} {a : α}
    (h : (act.outcome s).1.toOption = some a) : act s = .ok a (act.outcome s).2 := by
  rw [outcome] at h ⊢
  cases hrun : act s with
  | ok a' s' =>
    rw [hrun] at h
    cases h
    rfl
  | error e s' =>
    rw [hrun] at h
    cases h

/-! ## Under an invariant -/

/-- From every state with `P`, an action gives an answer with `Q`, and `P` holds again of the state
    behind it. -/
def Yields (P : σ → Prop) (act : Action σ α) (Q : α → Prop) : Prop :=
  ∀ s, P s → ∃ a s', act s = .ok a s' ∧ P s' ∧ Q a

variable {P : σ → Prop} {Q : α → Prop} {R : β → Prop} {act : Action σ α}

theorem Yields.mono {Q' : α → Prop} (h : Yields P act Q) (hQ : ∀ a, Q a → Q' a) :
    Yields P act Q' := by
  intro s hs
  obtain ⟨a, s', hrun, hs', ha⟩ := h s hs
  exact ⟨a, s', hrun, hs', hQ a ha⟩

theorem yields_pure {a : α} (h : Q a) : Yields P (pure a) Q :=
  fun s hs => ⟨a, s, rfl, hs, h⟩

theorem yields_get : Yields P get P :=
  fun s hs => ⟨s, s, rfl, hs, hs⟩

theorem yields_modify {f : σ → σ} (h : ∀ s, P s → P (f s)) :
    Yields P (modify f) fun _ => True :=
  fun s hs => ⟨⟨⟩, f s, rfl, h s hs, trivial⟩

/-- What the first action yields, the second may count on. -/
theorem Yields.bind {f : α → Action σ β} (h : Yields P act Q) (hf : ∀ a, Q a → Yields P (f a) R) :
    Yields P (act >>= f) R := by
  intro s hs
  obtain ⟨a, s', hrun, hs', ha⟩ := h s hs
  obtain ⟨b, s'', hrun', hs'', hb⟩ := hf a ha s' hs'
  exact ⟨b, s'', by rw [bind_eq_ok hrun, hrun'], hs'', hb⟩

/-- An action of a part yields as much as an action of the whole. -/
theorem Yields.onPart {get : τ → σ} {put : σ → τ → τ} {P' : τ → Prop} (h : Yields P act Q)
    (hget : ∀ t, P' t → P (get t)) (hput : ∀ s t, P s → P' t → P' (put s t)) :
    Yields P' (act.onPart get put) Q := by
  intro t ht
  obtain ⟨a, s', hrun, hs', ha⟩ := h (get t) (hget t ht)
  exact ⟨a, put s' t, onPart_eq_ok hrun, hput s' t hs' ht, ha⟩

/-- Actions on the elements of a list, one after the other, where a part of each answer is known. -/
theorem Yields.mapM {γ : Type} {f : α → Action σ β} {part : β → γ} {known : α → γ} {xs : List α}
    (h : ∀ x ∈ xs, Yields P (f x) fun b => part b = known x) :
    Yields P (xs.mapM f) fun bs => bs.map part = xs.map known := by
  -- The invariant holds again behind each element, so the rest starts from a state like the first.
  induction xs with
  | nil => exact yields_pure rfl
  | cons x xs ih =>
    rw [List.mapM_cons]
    refine (h x List.mem_cons_self).bind fun b hb => ?_
    refine (ih fun y hy => h y (List.mem_cons_of_mem _ hy)).bind fun bs hbs => ?_
    exact yields_pure (by rw [List.map_cons, List.map_cons, hb, hbs])

end Action

theorem Linked.fetch_apply {σ α : Type} (act : Fetch α) (l : Linked σ) :
    Linked.fetch act l = match act l.gateway with
      | .ok a g => .ok a { l with gateway := g }
      | .error e g => .error e { l with gateway := g } := by
  simp only [Linked.fetch, Action.onPart]
  cases act l.gateway <;> rfl

/-! ## Following a list -/

namespace Gateway

variable {σ α : Type} {fetch : Option String → Action σ (Page α)}

/-- A place that was kept is kept again. -/
theorem placeOf_placeOf (resume : Option String) : placeOf (placeOf resume) = placeOf resume := by
  cases resume with
  | none => rfl
  | some place => by_cases h : place = "" <;> simp [placeOf, Option.filter, h]

/-- From a place on, a list has this many pages with these items; reading them leads from one state
    to another. -/
inductive Pages (fetch : Option String → Action σ (Page α)) :
    Nat → Option String → σ → List α → σ → Prop
  | last {place : Option String} {s s' : σ} {items : List α} :
    fetch place s = .ok ⟨items, none⟩ s' → Pages fetch 1 place s items s'
  | more {n : Nat} {place : Option String} {behind : String} {s s' s'' : σ}
      {items rest : List α} :
    fetch place s = .ok ⟨items, some behind⟩ s' → Pages fetch n (some behind) s' rest s'' →
      Pages fetch (n + 1) place s (items ++ rest) s''

/-- A list is followed to its end if it has no more pages than are asked for. -/
theorem followFrom_of_pages {n fuel : Nat} {place : Option String} {s s' : σ} {items : List α}
    (h : Pages fetch n place s items s') (collected : List α) (hn : n ≤ fuel) :
    followFrom fetch fuel collected place s = .ok (collected ++ items) s' := by
  -- By the pages; what was collected so far grows from one page to the next.
  induction h generalizing fuel collected with
  | last hfetch =>
    obtain ⟨fuel, rfl⟩ : ∃ k, fuel = k + 1 := ⟨fuel - 1, by omega⟩
    rw [followFrom, Action.bind_eq_ok hfetch]
    exact Action.pure_apply _ _
  | more hfetch _ ih =>
    obtain ⟨fuel, rfl⟩ : ∃ k, fuel = k + 1 := ⟨fuel - 1, by omega⟩
    rw [followFrom, Action.bind_eq_ok hfetch]
    show followFrom fetch fuel _ _ _ = _
    rw [ih _ (by omega), List.append_assoc]

theorem drain_apply (fetch : Option String → Fetch (Page α)) (g : Gateway) :
    drain fetch g = followFrom fetch g.patience [] none g := by
  rw [drain, Action.bind_apply, Action.get_apply]

end Gateway
end ClusterAccess
