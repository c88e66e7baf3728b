/-
  ClusterAccess.Proofs.Agreement

  What is known of an action wherever it succeeds, and of two actions wherever
  both do. An invariant holds again behind a success. Two actions agree if, from
  related states, their answers are related and so are the states behind them;
  how long either of them was ready to go on, and which failures it was spared,
  makes no difference then.
-/
import ClusterAccess.Proofs.GatewayCalls

namespace ClusterAccess

namespace Action

variable {σ τ σ' τ' α β α' β' γ δ : Type}

/-! ## One action -/

/-- Where an action succeeds from a state with `P`, its answer has `Q`, and `P` holds again of the
state behind it. -/
def Gives (P : σ → Prop) (act : Action σ α) (Q : α → Prop) : Prop :=
  ∀ s a s', P s → act s = .ok a s' → P s' ∧ Q a

variable {P : σ → Prop} {act : Action σ α} {Q : α → Prop}

theorem Gives.mono {Q' : α → Prop} (h : Gives P act Q) (hQ : ∀ a, Q a → Q' a) :
    Gives P act Q' := by
  intro s a s' hs hrun
  exact (h s a s' hs hrun).imp_right (hQ a)

theorem gives_pure {a : α} (h : Q a) : Gives P (pure a) Q := by
  rintro s _ _ hs ⟨⟩
  exact ⟨hs, h⟩

theorem gives_get : Gives P get P := by
  rintro s _ _ hs ⟨⟩
  exact ⟨hs, hs⟩

theorem bind_ok {x : Action σ α} {f : α → Action σ β} {s s' : σ} {b : β}
    (h : (x >>= f) s = .ok b s') : ∃ a mid, x s = .ok a mid ∧ f a mid = .ok b s' := by
  rw [bind_apply] at h
  split at h
  next a mid hx => exact ⟨a, mid, hx, h⟩
  next => cases h

theorem Gives.bind {f : α → Action σ β} {R : β → Prop} (h : Gives P act Q)
    (hf : ∀ a, Q a → Gives P (f a) R) : Gives P (act >>= f) R := by
  intro s b s' hs hrun
  obtain ⟨a, mid, hact, hrest⟩ := bind_ok hrun
  obtain ⟨hmid, ha⟩ := h s a mid hs hact
  exact hf a ha mid b s' hmid hrest

theorem onPart_ok {get : τ → σ} {put : σ → τ → τ} {act : Action σ α} {t t' : τ} {a : α}
    (h : act.onPart get put t = .ok a t') : ∃ s, act (get t) = .ok a s ∧ t' = put s t := by
  simp only [onPart] at h
  split at h
  next a' s hact =>
    cases h
    exact ⟨s, hact, rfl⟩
  next => cases h

theorem Gives.onPart {get : τ → σ} {put : σ → τ → τ} {P' : τ → Prop} (h : Gives P act Q)
    (hget : ∀ t, P' t → P (get t)) (hput : ∀ s t, P s → P' t → P' (put s t)) :
    Gives P' (act.onPart get put) Q := by
  intro t a t' ht hrun
  obtain ⟨s, hact, rfl⟩ := onPart_ok hrun
  obtain ⟨hs, ha⟩ := h _ a s (hget t ht) hact
  exact ⟨hput s t hs ht, ha⟩

/-- An invariant that does not mind what an action keeps. -/
theorem Keeps.gives {R : σ → σ → Prop} (h : Keeps R act) (hP : ∀ s s', P s → R s s' → P s') :
    Gives P act fun _ => True :=
  fun s _ s' hs hrun => ⟨hP s s' hs (h.of_ok hrun), trivial⟩

theorem Gives.mapM {f : α → Action σ β} {R : β → Prop} {xs : List α}
    (h : ∀ x ∈ xs, Gives P (f x) R) : Gives P (xs.mapM f) fun ys => ∀ y ∈ ys, R y := by
  induction xs with
  | nil => exact gives_pure fun y hy => absurd hy List.not_mem_nil
  | cons x xs ih =>
    rw [List.mapM_cons]
    refine (h x List.mem_cons_self).bind fun y hy => ?_
    refine (ih fun x' hx' => h x' (List.mem_cons_of_mem _ hx')).bind fun ys hys => ?_
    exact gives_pure (List.forall_mem_cons.2 ⟨hy, hys⟩)

/-! ## Two actions -/

/-- Where two actions succeed from related states, so are their answers and the states behind
them. -/
def Agree (R : σ → τ → Prop) (x : Action σ α) (y : Action τ β) (Q : α → β → Prop) : Prop :=
  ∀ s t a b s' t', R s t → x s = .ok a s' → y t = .ok b t' → R s' t' ∧ Q a b

variable {R : σ → τ → Prop} {x : Action σ α} {y : Action τ β} {S : α → β → Prop}

theorem Agree.mono {S' : α → β → Prop} (h : Agree R x y S) (hS : ∀ a b, S a b → S' a b) :
    Agree R x y S' := by
  intro s t a b s' t' hst hx hy
  exact (h s t a b s' t' hst hx hy).imp_right (hS a b)

/-- Actions that each keep an invariant and give what they give agree on as much. -/
theorem Gives.agree {P' : τ → Prop} {Q' : β → Prop} (h : Gives P act Q) (h' : Gives P' y Q') :
    Agree (fun s t => P s ∧ P' t) act y fun a b => Q a ∧ Q' b := by
  rintro s t a b s' t' ⟨hs, ht⟩ hx hy
  obtain ⟨hs', ha⟩ := h s a s' hs hx
  obtain ⟨ht', hb⟩ := h' t b t' ht hy
  exact ⟨⟨hs', ht'⟩, ha, hb⟩

theorem agree_pure {a : α} {b : β} (h : S a b) : Agree R (pure a) (pure b) S := by
  rintro s t _ _ _ _ hst ⟨⟩ ⟨⟩
  exact ⟨hst, h⟩

theorem agree_get : Agree R get get R := by
  rintro s t _ _ _ _ hst ⟨⟩ ⟨⟩
  exact ⟨hst, hst⟩

theorem agree_throw (e : Fault) : Agree R (throw e : Action σ α) y S := by
  rintro s t _ _ _ _ hst ⟨⟩

theorem agree_ofExcept {ε : Type} (wrap : ε → Fault) (x : Except ε α) :
    Agree R (ofExcept wrap x) (ofExcept wrap x) fun a b => a = b := by
  cases x with
  | ok a => exact agree_pure rfl
  | error e => exact agree_throw (wrap e)

theorem Agree.bind {f : α → Action σ α'} {f' : β → Action τ β'} {S' : α' → β' → Prop}
    (h : Agree R x y S) (hf : ∀ a b, S a b → Agree R (f a) (f' b) S') :
    Agree R (x >>= f) (y >>= f') S' := by
  intro s t a' b' s' t' hst hx hy
  obtain ⟨a, mid, hxa, hxf⟩ := bind_ok hx
  obtain ⟨b, mid', hyb, hyf⟩ := bind_ok hy
  obtain ⟨hmid, hab⟩ := h s t a b mid mid' hst hxa hyb
  exact hf a b hab mid mid' a' b' s' t' hmid hxf hyf

theorem Agree.onPart {get : σ' → σ} {put : σ → σ' → σ'} {get' : τ' → τ} {put' : τ → τ' → τ'}
    {R' : σ' → τ' → Prop} (h : Agree R x y S) (hget : ∀ s t, R' s t → R (get s) (get' t))
    (hput : ∀ s t s' t', R s t → R' s' t' → R' (put s s') (put' t t')) :
    Agree R' (x.onPart get put) (y.onPart get' put') S := by
  intro s t a b s' t' hst hx hy
  obtain ⟨part, hxa, rfl⟩ := onPart_ok hx
  obtain ⟨part', hyb, rfl⟩ := onPart_ok hy
  obtain ⟨hparts, hab⟩ := h _ _ a b part part' (hget s t hst) hxa hyb
  exact ⟨hput part part' s t hparts hst, hab⟩

/-- Actions on the elements of two lists that show the same, one after the other. -/
theorem Agree.mapM {shown : α → γ} {shown' : β → γ} {f : α → Action σ α'} {f' : β → Action τ β'}
    {out : α' → δ} {out' : β' → δ} {xs : List α} {ys : List β}
    (hshown : xs.map shown = ys.map shown')
    (h : ∀ x y, shown x = shown' y → Agree R (f x) (f' y) fun a b => out a = out' b) :
    Agree R (xs.mapM f) (ys.mapM f') fun as bs => as.map out = bs.map out' := by
  induction xs generalizing ys with
  | nil =>
    obtain rfl := List.map_eq_nil_iff.1 hshown.symm
    exact agree_pure rfl
  | cons x xs ih =>
    cases ys with
    | nil => cases hshown
    | cons y ys =>
      rw [List.map_cons, List.map_cons, List.cons.injEq] at hshown
      rw [List.mapM_cons, List.mapM_cons]
      refine (h x y hshown.1).bind fun a b hab => ?_
      refine (ih hshown.2).bind fun as bs habs => ?_
      exact agree_pure (by rw [List.map_cons, List.map_cons, hab, habs])

end Action

/-! ## Lists of the server -/

namespace Gateway

open ClusterAccess.Action

variable {σ τ α β γ : Type}

/-- Lists whose pages show the same from every place on show the same as a whole, however many
pages were allowed for either. -/
theorem agree_followFrom {R : σ → τ → Prop} {fetch : Option String → Action σ (Page α)}
    {fetch' : Option String → Action τ (Page β)} {shown : α → γ} {shown' : β → γ}
    (h : ∀ place, Agree R (fetch place) (fetch' place) fun page page' =>
      page.items.map shown = page'.items.map shown' ∧ page.next = page'.next)
    (fuel fuel' : Nat) {collected : List α} {collected' : List β}
    (hshown : collected.map shown = collected'.map shown') (place : Option String) :
    Agree R (followFrom fetch fuel collected place) (followFrom fetch' fuel' collected' place)
      fun xs ys => xs.map shown = ys.map shown' := by
  induction fuel generalizing fuel' collected collected' place with
  | zero => exact agree_throw _
  | succ fuel ih =>
    cases fuel' with
    | zero =>
      rintro s t _ _ _ _ hst _ ⟨⟩
    | succ fuel' =>
      refine (h place).bind ?_
      rintro ⟨items, next⟩ ⟨items', next'⟩ ⟨hitems, hnext⟩
      simp only at hitems hnext
      subst hnext
      have hmore : (collected ++ items).map shown = (collected' ++ items').map shown' := by
        rw [List.map_append, List.map_append, hshown, hitems]
      cases next with
      | none => exact agree_pure hmore
      | some behind => exact ih fuel' hmore (some behind)

/-- A relation that holds of two gateways for what is steady of them. -/
def IsSettled (R : Gateway → Gateway → Prop) : Prop :=
  ∀ g h g' h', R g h → Steady g g' → Steady h h' → R g' h'

variable {R : Gateway → Gateway → Prop}

theorem agree_listPage (hR : IsSettled R) (name : ListName)
    (serve : Server → ListCall → Answer α) (hserve : ∀ g h, R g h → serve g.server = serve h.server)
    (hsize : ∀ g h, R g h → g.pageSize = h.pageSize) (place : Option String) :
    Agree R (listPage name serve place none) (listPage name serve place none) (· = ·) := by
  intro g h page page' g' h' hgh hpage hpage'
  have hsteady := isSteady_listPage name serve place none
  refine ⟨hR g h g' h' hgh (hsteady.of_ok hpage) (hsteady.of_ok hpage'), ?_⟩
  obtain ⟨items, next, hanswer, rfl, -⟩ := listPage_ok hpage
  obtain ⟨items', next', hanswer', rfl, -⟩ := listPage_ok hpage'
  rw [hserve g h hgh, hsize g h hgh] at hanswer
  obtain ⟨rfl, rfl⟩ := eq_of_pages_eq (hanswer.symm.trans hanswer')
  rfl

theorem agree_role (hR : IsSettled R) (hserve : ∀ g h, R g h → g.server.role = h.server.role)
    (ns name : String) : Agree R (role ns name) (role ns name) (· = ·) := by
  intro g h r r' g' h' hgh hrole hrole'
  have hsteady := isSteady_role ns name
  refine ⟨hR g h g' h' hgh (hsteady.of_ok hrole) (hsteady.of_ok hrole'), ?_⟩
  have hsame := (role_ok hrole).symm.trans (hserve g h hgh ▸ role_ok hrole')
  cases hsame
  rfl

theorem agree_clusterRole (hR : IsSettled R)
    (hserve : ∀ g h, R g h → g.server.clusterRole = h.server.clusterRole) (name : String) :
    Agree R (clusterRole name) (clusterRole name) (· = ·) := by
  intro g h r r' g' h' hgh hrole hrole'
  have hsteady := isSteady_clusterRole name
  refine ⟨hR g h g' h' hgh (hsteady.of_ok hrole) (hsteady.of_ok hrole'), ?_⟩
  have hsame := (clusterRole_ok hrole).symm.trans (hserve g h hgh ▸ clusterRole_ok hrole')
  cases hsame
  rfl

end Gateway
end ClusterAccess
