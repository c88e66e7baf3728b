/-
  ClusterAccess.Proofs.LoadLedger

  Which bindings an auditor works with. A ledger notes down every load of bindings:
  when it was made, and of which server. Whatever an auditor is asked, however that
  ends, and whatever becomes of the cluster in between, it holds what the server of
  the last load had for as long as that load counts, and holds nothing that counts
  after that.
-/
import ClusterAccess.Proofs.ListingCalls
import ClusterAccess.Proofs.TourAgreement

namespace ClusterAccess.Auditor

open ClusterAccess.Action
open BindingCache (Query HasOnly Tended)
open Gateway (Incident Steady)

/-! ## Requests -/

/-- What an auditor may be asked. -/
inductive Request
  | list (kindName token : String)
  | entitlements (kindName : String) (r : Resource)
  | grants (kindName : String) (r : Resource)
  | namespaces
  | listPage (kindName token : String)
  | snapshot
  | graph (refresh : Bool)
  | bindings (q : Query)
  | probe

/-- The auditor behind a request, however that ended. -/
def Request.behind (a : Auditor) : Request → Auditor
  | .list kindName token => ((Auditor.list kindName token).outcome a).2
  | .entitlements kindName r => ((Auditor.entitlements kindName r).outcome a).2
  | .grants kindName r => ((Auditor.grants kindName r).outcome a).2
  | .namespaces => (Auditor.namespaces.outcome a).2
  | .listPage kindName token => ((Auditor.listPage kindName token).outcome a).2
  | .snapshot => (Auditor.snapshot.outcome a).2
  | .graph refresh => ((accessGraph refresh).outcome a).2
  | .bindings q => ((onBindings (BindingCache.ask q)).outcome a).2
  | .probe => (Auditor.probe.outcome a).2

/-- The bindings are tended, and the settings stay. -/
structure Tends (a a' : Auditor) : Prop where
  bindings : BindingCache.Tends ⟨a.bindings, a.gateway⟩ ⟨a'.bindings, a'.gateway⟩
  settings_eq : a'.settings = a.settings

theorem Tends.refl (a : Auditor) : Tends a a := ⟨.refl _, rfl⟩

theorem Tends.trans {a a' a'' : Auditor} (h : Tends a a') (h' : Tends a' a'') : Tends a a'' :=
  ⟨h.bindings.trans h'.bindings, h'.settings_eq.trans h.settings_eq⟩

theorem Follows.tends {a a' : Auditor} (h : Follows a a') : Tends a a' :=
  ⟨⟨h.gateway, .kept h.bindings_eq⟩, h.settings_eq⟩

theorem keeps_onCatalog {α : Type} (c : Catalog) {act : Action (Linked Catalog) α}
    (h : Keeps Catalog.Stays act) : Keeps Tends (onCatalog c putCatalog act) :=
  h.onPart fun _ _ hl => ⟨⟨hl.gateway, .kept rfl⟩, rfl⟩

theorem keeps_onBindings {α : Type} {act : Action (Linked BindingCache) α}
    (h : Keeps BindingCache.Tends act) : Keeps Tends (onBindings act) :=
  h.onPart fun _ _ hl => ⟨hl, rfl⟩

/-- A request about a kind goes to the catalogue of the kind, if there is one. -/
theorem keeps_catalog_bind {α : Type} (kindName : String) {act : Catalog → Action Auditor α}
    (h : ∀ c, Keeps Tends (act c)) : Keeps Tends (catalog kindName >>= act) :=
  Keeps.bind Tends.trans ((keeps_catalog kindName).mono fun _ _ h => h.tends) h

theorem keeps_snapshot : Keeps Tends snapshot := by
  refine Keeps.bind Tends.trans (keeps_get Tends.refl) fun a => ?_
  have htour : ∀ c, Keeps Tends (tour c Tour.snapshot) :=
    fun c => Tour.keeps_snapshot.onPart fun _ _ ht => ⟨ht.bindings, rfl⟩
  exact Keeps.bind Tends.trans (Keeps.mapM Tends.refl Tends.trans htour _) fun parts =>
    keeps_pure Tends.refl _

theorem keeps_accessGraph (refresh : Bool) : Keeps Tends (accessGraph refresh) := by
  have htaken : Keeps Tends (snapshot >>= fun s => do
      modify fun a => { a with graph := some (AccessGraph.ofGrants s.grants) }
      pure (AccessGraph.ofGrants s.grants)) := by
    refine Keeps.bind Tends.trans keeps_snapshot fun s => ?_
    exact Keeps.bind Tends.trans (keeps_modify fun a => ⟨.refl _, rfl⟩) fun _ =>
      keeps_pure Tends.refl _
  refine keeps_get_bind fun a => ?_
  cases a.graph with
  | none => exact htaken a
  | some graph =>
    cases refresh with
    | false => exact Tends.refl a
    | true => exact htaken a

/-- Whatever is asked, the bindings are tended. -/
theorem Request.tends (r : Request) (a : Auditor) : Tends a (r.behind a) := by
  cases r with
  | list kindName token =>
    exact (keeps_catalog_bind kindName fun c =>
      keeps_onCatalog c (Catalog.keeps_list token)).outcome a
  | entitlements kindName r =>
    exact (keeps_catalog_bind kindName fun c =>
      keeps_onCatalog c (Catalog.keeps_entitlements r)).outcome a
  | grants kindName r =>
    exact (keeps_catalog_bind kindName fun c =>
      keeps_onBindings (Catalog.keeps_grants c r)).outcome a
  | namespaces =>
    exact (keeps_catalog_bind _ fun c => keeps_onCatalog c Catalog.keeps_namespaces).outcome a
  | listPage kindName token => exact ((keeps_listPage kindName token).outcome a).tends
  | snapshot => exact keeps_snapshot.outcome a
  | graph refresh => exact (keeps_accessGraph refresh).outcome a
  | bindings q => exact (keeps_onBindings (BindingCache.keeps_ask q)).outcome a
  | probe =>
    have hprobe : Keeps Tends Auditor.probe :=
      Gateway.isSteady_probe.onPart fun _ _ hg => ⟨⟨hg, .kept rfl⟩, rfl⟩
    exact hprobe.outcome a

/-! ## The ledger -/

/-- Where a load of bindings comes from: when it was made, and of which server. -/
structure Origin where
  time : Int
  server : Server

/-- Whether a load counts at a time, where each one does for so many seconds; zero is for ever. -/
def Origin.Counts (load : Origin) (ttl : Nat) (now : Int) : Prop :=
  ttl = 0 ∨ now - load.time < ttl

instance (load : Origin) (ttl : Nat) (now : Int) : Decidable (load.Counts ttl now) :=
  inferInstanceAs (Decidable (_ ∨ _))

/-- An auditor, with the loads of bindings that it has made. -/
structure Session where
  auditor : Auditor
  loads : List Origin := []

namespace Session

/-- One thing that happens: a request, or an incident outside of the auditor. -/
inductive Turn
  | request (r : Request)
  | outside (i : Incident)

/-- A new auditor has loaded nothing. -/
def start (settings : Settings) (g : Gateway) : Session where
  auditor := ofGateway settings g

/-- What is there after one more turn. A request behind which the cache counts one load more has
loaded the bindings of the server. -/
def step (s : Session) : Turn → Session
  | .outside i => { s with auditor := { s.auditor with gateway := s.auditor.gateway.undergo i } }
  | .request r =>
    if (r.behind s.auditor).bindings.loadCount = s.auditor.bindings.loadCount then
      { s with auditor := r.behind s.auditor }
    else {
      auditor := r.behind s.auditor
      loads := s.loads ++ [⟨s.auditor.gateway.clock, s.auditor.gateway.server⟩] }

/-- What is there after these turns. -/
def run (s : Session) (turns : List Turn) : Session :=
  turns.foldl step s

/-- The last load, if it counts now. -/
def current? (s : Session) : Option Origin :=
  s.loads.getLast?.filter fun load =>
    load.Counts s.auditor.settings.bindingTtl s.auditor.gateway.clock

/-! ## What is known of a session -/

variable {settings : Settings} {s : Session}

/-- The cache holds what the server of the last load had, or nothing and the last load does not
count. -/
structure Sound (settings : Settings) (s : Session) : Prop where
  settings_eq : s.auditor.settings = settings
  pageSize_eq : s.auditor.gateway.pageSize = settings.pageSize
  ttl_eq : s.auditor.bindings.ttl = settings.bindingTtl
  loaded : s.auditor.bindings.loaded → ∃ load, s.loads.getLast? = some load ∧
    s.auditor.bindings.loadedAt = load.time ∧ HasOnly load.server settings.pageSize
      s.auditor.bindings.roleBindings s.auditor.bindings.clusterRoleBindings
  unloaded : s.auditor.bindings.loaded = false → s.current? = none

theorem sound_start (settings : Settings) (g : Gateway) : Sound settings (start settings g) where
  settings_eq := rfl
  pageSize_eq := rfl
  ttl_eq := rfl
  loaded hloaded := absurd hloaded Bool.false_ne_true
  unloaded _ := rfl

/-- The cache takes its load to count exactly while the last load in the ledger does. -/
theorem Sound.isFresh_eq (h : Sound settings s) :
    s.auditor.bindings.isFresh s.auditor.gateway.clock = s.current?.isSome := by
  rw [Bool.eq_iff_iff, BindingCache.isFresh_iff]
  cases hloaded : s.auditor.bindings.loaded with
  | false =>
    rw [h.unloaded hloaded]
    exact iff_of_false (fun hfresh => Bool.false_ne_true hfresh.1) Bool.false_ne_true
  | true =>
    obtain ⟨load, hlast, htime, -⟩ := h.loaded hloaded
    refine (and_iff_right rfl).trans ?_
    rw [current?, Option.isSome_filter, hlast, Option.any_some, decide_eq_true_iff, htime,
      h.ttl_eq, h.settings_eq, Origin.Counts]
    omega

/-- What the cache holds is what the server of the current load had. -/
theorem Sound.hasOnly (h : Sound settings s) {load : Origin} (hcurrent : s.current? = some load) :
    HasOnly load.server settings.pageSize s.auditor.bindings.roleBindings
      s.auditor.bindings.clusterRoleBindings := by
  cases hloaded : s.auditor.bindings.loaded with
  | false => cases (h.unloaded hloaded).symm.trans hcurrent
  | true =>
    obtain ⟨last, hlast, -, honly⟩ := h.loaded hloaded
    cases hlast.symm.trans (Option.filter_eq_some_iff.1 hcurrent).1
    exact honly

/-! ## One turn -/

/-- No load comes to count outside of requests. -/
theorem current?_outside (i : Incident) (h : s.current? = none) :
    (s.step (.outside i)).current? = none := by
  rw [current?, Option.filter_eq_none_iff] at h ⊢
  intro load hlast hcounts
  have hclock := Gateway.clock_le_undergo s.auditor.gateway i
  refine h load hlast ?_
  rw [decide_eq_true_iff] at hcounts ⊢
  exact hcounts.imp_right fun hyoung => Int.lt_of_le_of_lt (Int.sub_le_sub_right hclock _) hyoung

theorem Sound.outside (h : Sound settings s) (i : Incident) :
    Sound settings (s.step (.outside i)) where
  settings_eq := h.settings_eq
  pageSize_eq := by
    refine Eq.trans ?_ h.pageSize_eq
    cases i <;> rfl
  ttl_eq := h.ttl_eq
  loaded := h.loaded
  unloaded hunloaded := current?_outside i (h.unloaded hunloaded)

theorem step_of_loadCount_eq {r : Request}
    (h : (r.behind s.auditor).bindings.loadCount = s.auditor.bindings.loadCount) :
    s.step (.request r) = { s with auditor := r.behind s.auditor } :=
  if_pos h

theorem step_of_loadCount_ne {r : Request}
    (h : (r.behind s.auditor).bindings.loadCount ≠ s.auditor.bindings.loadCount) :
    s.step (.request r) = {
      auditor := r.behind s.auditor
      loads := s.loads ++ [⟨s.auditor.gateway.clock, s.auditor.gateway.server⟩] } :=
  if_neg h

/-- A request loads at most once, and what it loads is what the server has. -/
theorem Sound.request (h : Sound settings s) (r : Request) :
    Sound settings (s.step (.request r)) := by
  obtain ⟨⟨hsteady, hown⟩, hsettings⟩ := r.tends s.auditor
  simp only at hsteady hown
  have hsize := hsteady.pageSize_eq.trans h.pageSize_eq
  -- A session with the same loads has the same current one, since no time has passed.
  have hcurrent : current? { s with auditor := r.behind s.auditor } = s.current? := by
    rw [current?, current?, hsettings, hsteady.clock_eq]
  cases hown with
  | kept hbehind =>
    rw [step_of_loadCount_eq (congrArg BindingCache.loadCount hbehind)]
    refine ⟨hsettings.trans h.settings_eq, hsize, ?_, ?_, ?_⟩
    · rw [hbehind]
      exact h.ttl_eq
    · rw [hbehind]
      exact h.loaded
    · rw [hbehind, hcurrent]
      exact h.unloaded
  | dropped hstale hbehind =>
    have hcount := congrArg BindingCache.loadCount hbehind
    rw [step_of_loadCount_eq hcount]
    refine ⟨hsettings.trans h.settings_eq, hsize, ?_, ?_, fun _ => ?_⟩
    · rw [hbehind]
      exact h.ttl_eq
    · rw [hbehind]
      exact fun hloaded => absurd hloaded Bool.false_ne_true
    · rw [hcurrent, ← Option.not_isSome_iff_eq_none, ← h.isFresh_eq, Bool.not_eq_true]
      exact hstale
  | loaded hstale hread hbehind =>
    have hcount := congrArg BindingCache.loadCount hbehind
    rw [BindingCache.loadCount_publish] at hcount
    rw [step_of_loadCount_ne (hcount ▸ Nat.ne_of_gt (Nat.lt_add_one _))]
    refine ⟨hsettings.trans h.settings_eq, hsize, ?_, fun _ => ?_, ?_⟩
    · rw [hbehind]
      exact h.ttl_eq
    · refine ⟨_, List.getLast?_concat, ?_⟩
      rw [hbehind, ← h.pageSize_eq]
      exact ⟨rfl, hread.hasOnly⟩
    · rw [hbehind]
      exact fun hunloaded => absurd hunloaded.symm Bool.false_ne_true

/-- Whatever happens, what is known of a session stays true. -/
theorem Sound.run (h : Sound settings s) (turns : List Turn) : Sound settings (s.run turns) := by
  induction turns generalizing s with
  | nil => exact h
  | cons turn turns ih =>
    cases turn with
    | request r => exact ih (h.request r)
    | outside i => exact ih (h.outside i)

end Session
end ClusterAccess.Auditor
