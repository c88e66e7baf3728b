/-
  ClusterAccess.Proofs.CompiledGrants

  What the two grant compilers give, exactly. A membership stands for a subject of
  a binding that names a principal; a permission stands for a rule that gives a
  verb on a target.
-/
import ClusterAccess.Grant.Permissions
import ClusterAccess.Resource

namespace ClusterAccess

/-- What is left of an outcome without its error. -/
theorem toOption_eq_some_iff {ε α : Type} {e : Except ε α} {a : α} :
    e.toOption = some a ↔ e = .ok a := by
  cases e <;> simp [Except.toOption]

/-! ## Memberships -/

/-- One of the subjects of a binding names the principal. -/
def Binding.Names (b : Binding) (principal : ResourceRef) : Prop :=
  ∃ s ∈ b.subjects, s.resolve b.ns = .ok principal

theorem Subject.kind_mem_principals {s : Subject} {ns : String} {principal : ResourceRef}
    (h : s.resolve ns = .ok principal) : principal.kind ∈ Entitlement.principals := by
  unfold resolve at h
  split at h
  · split at h
    · cases h
    · cases h; simp [Entitlement.principals]
  · split at h
    · cases h
    · cases h; simp [Entitlement.principals]
  · split at h
    · cases h
    · cases h; simp [Entitlement.principals]
  · cases h

theorem Binding.Names.kind_mem_principals {b : Binding} {principal : ResourceRef}
    (h : b.Names principal) : principal.kind ∈ Entitlement.principals := by
  obtain ⟨s, -, hs⟩ := h
  exact s.kind_mem_principals hs

theorem Occurrence.compile_eq_ok_iff {role : ResourceRef} {confined : Bool} {o : Occurrence}
    {g : Grant} :
    o.compile role confined = .ok g ↔
      ∃ principal, o.subject.resolve o.binding.ns = .ok principal ∧
        g = ⟨member, principal, role, o.binding.scope confined⟩ := by
  unfold compile
  split
  next principal h => simp [h, eq_comm]
  next fault h => simp [h]

/-- The memberships of a role, exactly: one for each subject of a binding that names a principal. -/
theorem Grant.mem_memberships_iff {role : ResourceRef} {confined : Bool} {bindings : List Binding}
    {g : Grant} :
    g ∈ (Grant.memberships role confined bindings).grants ↔
      ∃ b ∈ bindings, b.Names g.holder ∧
        g.entitlement = member ∧ g.target = role ∧ g.scope = b.scope confined := by
  simp only [memberships, Binding.occurrences, List.mem_filterMap, List.mem_map,
    List.mem_flatMap, toOption_eq_some_iff]
  constructor
  · -- An occurrence is a binding with one of its subjects.
    rintro ⟨_, ⟨_, ⟨b, hb, s, hs, rfl⟩, rfl⟩, hg⟩
    obtain ⟨principal, hres, rfl⟩ := Occurrence.compile_eq_ok_iff.1 hg
    exact ⟨b, hb, ⟨s, hs, hres⟩, rfl, rfl, rfl⟩
  · rintro ⟨b, hb, ⟨s, hs, hres⟩, hent, htarget, hscope⟩
    refine ⟨_, ⟨⟨b, s⟩, ⟨b, hb, s, hs, rfl⟩, rfl⟩,
      Occurrence.compile_eq_ok_iff.2 ⟨g.holder, hres, ?_⟩⟩
    rw [← hent, ← htarget, ← hscope]

/-! ## Permissions -/

namespace PolicyRule

/-- A rule is about a target: one of its pairs maps to the target's kind, and the target is the
    whole kind if the rule lists no names, or else an object that it names. -/
def Reaches (rule : PolicyRule) (roleNs : String) (target : ResourceRef) : Prop :=
  (∃ pair ∈ rule.pairs, ResourceKind.ofRule? pair.1 pair.2 = some target.kind) ∧
    ((rule.resourceNames = [] ∧ target = .all target.kind) ∨
      ∃ name ∈ rule.resourceNames, targetNamed roleNs target.kind name = .ok target)

/-- A rule of a role in `roleNs` gives a verb on a target. -/
def Gives (rule : PolicyRule) (roleNs verb : String) (target : ResourceRef) : Prop :=
  rule.nonResourceUrls = [] ∧ verb ∈ Verb.effective rule.verbs ∧ rule.Reaches roleNs target

variable {rule : PolicyRule} {holder target : ResourceRef} {roleNs name : String}
  {kind : ResourceKind} {index : Nat} {g : Grant}

theorem kind_of_targetNamed (h : targetNamed roleNs kind name = .ok target) :
    target.kind = kind := by
  unfold targetNamed ResourceRef.makeNamespaced ResourceRef.make at h
  -- Each way of naming an object keeps the kind that it was given.
  split at h
  · split at h
    · cases h; rfl
    · split at h
      · cases h
      · cases h; rfl
  · split at h
    · cases h
    · cases h; rfl

theorem ok_mem_targets_iff {names : List String} :
    .ok target ∈ targets holder roleNs index kind names ↔
      (names = [] ∧ target = .all kind) ∨
        ∃ name ∈ names, targetNamed roleNs kind name = .ok target := by
  unfold targets
  split
  next hnames => simp [hnames]
  next hnames =>
    simp only [hnames, false_and, false_or, List.mem_map]
    constructor
    · rintro ⟨name, hname, heq⟩
      refine ⟨name, hname, ?_⟩
      cases htarget : targetNamed roleNs kind name with
      | error fault => rw [htarget] at heq; cases heq
      | ok t => rw [htarget] at heq; cases heq; rfl
    · rintro ⟨name, hname, heq⟩
      exact ⟨name, hname, by rw [heq]; rfl⟩

/-- What one pair gives: every verb on every target of its kind. -/
theorem ok_mem_pairEvents_iff {pair : String × String} :
    .ok g ∈ pairEvents holder roleNs index rule pair ↔
      g.holder = holder ∧ g.scope = none ∧ g.entitlement ∈ Verb.effective rule.verbs ∧
        ∃ kind, ResourceKind.ofRule? pair.1 pair.2 = some kind ∧
          .ok g.target ∈ targets holder roleNs index kind rule.resourceNames := by
  unfold pairEvents
  cases hkind : ResourceKind.ofRule? pair.1 pair.2 with
  | none => simp
  | some kind =>
    simp only [List.mem_flatMap]
    constructor
    · rintro ⟨t, ht, hg⟩
      -- A target that was skipped gives an event of its own, and no grant.
      cases t with
      | error skipped => simp at hg
      | ok target =>
        obtain ⟨verb, hverb, heq⟩ := List.mem_map.1 hg
        cases heq
        exact ⟨rfl, rfl, hverb, kind, rfl, ht⟩
    · rintro ⟨rfl, hscope, hverb, k, hk, ht⟩
      cases hk
      refine ⟨.ok g.target, ht, List.mem_map.2 ⟨g.entitlement, hverb, ?_⟩⟩
      rw [← hscope]

theorem ok_mem_events_iff :
    .ok g ∈ events holder roleNs index rule ↔
      g.holder = holder ∧ g.scope = none ∧ rule.Gives roleNs g.entitlement g.target := by
  unfold events Gives Reaches
  -- A rule for paths that are no resources is passed over, as is a rule without verbs.
  split
  next hurls => simp [hurls]
  next hurls =>
    have hurls : rule.nonResourceUrls = [] := by simpa using hurls
    split
    next hverbs => simp [hverbs]
    next hverbs =>
      simp only [List.mem_flatMap, ok_mem_pairEvents_iff, ok_mem_targets_iff]
      constructor
      · rintro ⟨pair, hpair, hholder, hscope, hverb, kind, hkind, htarget⟩
        -- The pair and the target have to agree on one kind.
        have hk : g.target.kind = kind := by
          rcases htarget with ⟨-, ht⟩ | ⟨name, -, ht⟩
          · rw [ht]; rfl
          · exact kind_of_targetNamed ht
        subst hk
        exact ⟨hholder, hscope, hurls, hverb, ⟨pair, hpair, hkind⟩, htarget⟩
      · rintro ⟨hholder, hscope, -, hverb, ⟨pair, hpair, hkind⟩, htarget⟩
        exact ⟨pair, hpair, hholder, hscope, hverb, _, hkind, htarget⟩

end PolicyRule

/-- The permissions of a role, exactly: what its rules give. -/
theorem Grant.mem_permissions_iff {holder : ResourceRef} {roleNs : String}
    {rules : List PolicyRule} {g : Grant} :
    g ∈ (Grant.permissions holder roleNs rules).grants ↔
      g.holder = holder ∧ g.scope = none ∧
        ∃ rule ∈ rules, rule.Gives roleNs g.entitlement g.target := by
  simp only [permissions, permissionEvents, mem_firsts, List.mem_filterMap, List.mem_flatten,
    List.mem_mapIdx, toOption_eq_some_iff]
  -- The place of a rule shows in what was skipped only, so it can be left out of the grants.
  constructor
  · rintro ⟨_, ⟨_, ⟨i, hi, rfl⟩, hevent⟩, rfl⟩
    obtain ⟨hholder, hscope, hgives⟩ := PolicyRule.ok_mem_events_iff.1 hevent
    exact ⟨hholder, hscope, _, List.getElem_mem hi, hgives⟩
  · rintro ⟨hholder, hscope, rule, hrule, hgives⟩
    obtain ⟨i, hi, rfl⟩ := List.getElem_of_mem hrule
    exact ⟨_, ⟨_, ⟨i, hi, rfl⟩, PolicyRule.ok_mem_events_iff.2 ⟨hholder, hscope, hgives⟩⟩, rfl⟩

end ClusterAccess
