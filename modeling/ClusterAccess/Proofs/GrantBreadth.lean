/-
  ClusterAccess.Proofs.GrantBreadth

  Access is ordered by the breadth of grants. Who may do something on a kind as a
  whole may do it on every object of the kind, and only through a cluster role
  without a scope. Grants that are added, lose their scope or come to be about
  their whole kind take no access away.
-/
import ClusterAccess.Proofs.GraphQueries
import Mathlib.Logic.Relation

namespace ClusterAccess

/-! ## The whole kind -/

namespace ResourceRef

variable {granted target : ResourceRef} {confinement : Option String}

theorem isWildcard_all (kind : ResourceKind) : (all kind).isWildcard := by
  rw [isWildcard, all, beq_self_eq_true]

/-- Only the whole kind is about the whole kind. -/
theorem isAbout_all_iff {kind : ResourceKind} :
    granted.isAbout (all kind) ↔ granted.isWildcard := by
  -- The bare name asks for a target that is no wildcard, and the equal object is the wildcard.
  simp [isAbout, isWildcard, all]

/-- No namespace holds a whole kind. -/
theorem liesWithin_all_iff {kind : ResourceKind} :
    (all kind).liesWithin confinement ↔ confinement = none := by
  cases confinement with
  | none => simp [liesWithin]
  | some ns => simp [liesWithin, isWildcard_all]

/-- A permission covers a whole kind if it is on that kind as a whole and not confined. -/
theorem covers_all_iff {kind : ResourceKind} :
    granted.covers confinement (all kind) ↔
      granted.kind = kind ∧ confinement = none ∧ granted.isWildcard := by
  rw [covers_iff, liesWithin_all_iff, isAbout_all_iff]
  rfl

/-- The whole kind covers all that a permission on the kind covers. -/
theorem covers_all_of_covers (h : granted.covers confinement target) :
    (all granted.kind).covers confinement target := by
  obtain ⟨hkind, hwithin, -⟩ := covers_iff.1 h
  have habout : (all granted.kind).isAbout target := by
    simp [isAbout, isWildcard_all]
  exact covers_iff.2 ⟨hkind, hwithin, habout⟩

/-- What covers a target under one confinement does so under any other that lets it through. -/
theorem covers_of_liesWithin {confinement' : Option String}
    (h : granted.covers confinement target) (hwithin : target.liesWithin confinement') :
    granted.covers confinement' target := by
  obtain ⟨hkind, -, habout⟩ := covers_iff.1 h
  exact covers_iff.2 ⟨hkind, hwithin, habout⟩

end ResourceRef

/-- A membership is not confined if it is one of a cluster role without a scope. -/
theorem Grant.confinement_eq_none_iff {m : Grant} (hm : m.isMembership) :
    m.confinement = none ↔ m.target.kind = .clusterRole ∧ m.scope = none := by
  have hrole : m.target.kind.isRole := (Bool.and_eq_true _ _ ▸ hm : _ ∧ _).2
  rw [confinement]
  cases hkind : m.target.kind <;> simp_all [ResourceKind.isRole]

namespace AccessGraph

variable {grants grants' : List Grant} {principal target : ResourceRef} {verb : String}
  {groups : List ResourceRef} {kind : ResourceKind} {path : AccessPath}

/-- A path to a whole kind goes through a membership of a cluster role without a scope, and ends
    in a permission on the kind as a whole. -/
theorem wide_of_mem_explain_all
    (h : path ∈ (ofGrants grants).explain principal verb (.all kind) groups) :
    (path.membership.target.kind = .clusterRole ∧ path.membership.scope = none) ∧
      path.permission.target = .all kind := by
  obtain ⟨hm, -, -, hcov⟩ := mem_explain.1 h
  obtain ⟨hkind, hnone, hwild⟩ := ResourceRef.covers_all_iff.1 hcov
  have hmember : path.membership.isMembership := (mem_memberships.1 hm).2
  have htarget : path.permission.target = .all kind := by
    have hobject : path.permission.target.object = wildcard := by
      simpa [ResourceRef.isWildcard] using hwild
    rw [← hkind, ResourceRef.all, ← hobject]
  exact ⟨(Grant.confinement_eq_none_iff hmember).1 hnone, htarget⟩

/-- A path to a whole kind is a path to every object of it. -/
theorem mem_explain_of_mem_explain_all (object : String)
    (h : path ∈ (ofGrants grants).explain principal verb (.all kind) groups) :
    path ∈ (ofGrants grants).explain principal verb ⟨kind, object⟩ groups := by
  obtain ⟨hm, hid, hp, hcov⟩ := mem_explain.1 h
  obtain ⟨hkind, hnone, hwild⟩ := ResourceRef.covers_all_iff.1 hcov
  have hobject : path.permission.target.covers path.membership.confinement ⟨kind, object⟩ := by
    refine ResourceRef.covers_iff.2 ⟨hkind, ?_, ?_⟩
    · rw [hnone, ResourceRef.liesWithin]
    · simp [ResourceRef.isAbout, hwild]
  exact mem_explain.2 ⟨hm, hid, hp, hobject⟩

end AccessGraph

/-! ## Broader grants -/

/-- A grant and one that is at least as broad: it has lost its scope, or, if it makes nobody a
member of a role, it has come to be about the whole kind of its target. -/
inductive Grant.Broadens : Grant → Grant → Prop
  | same (g : Grant) : Broadens g g
  | unscoped (g : Grant) : Broadens g { g with scope := none }
  | wholeKind (g : Grant) (h : ¬ g.isMembership) : Broadens g { g with target := .all g.target.kind }

namespace Grant.Broadens

variable {g g' : Grant}

/-- A broader membership is one of the same role for the same holder, and lets through what the
    old one did. -/
theorem membership (h : g.Broadens g') (hg : g.isMembership) :
    g'.isMembership ∧ g'.holder = g.holder ∧ g'.target = g.target ∧
      ∀ target : ResourceRef, target.liesWithin g.confinement →
        target.liesWithin g'.confinement := by
  cases h with
  | same => exact ⟨hg, rfl, rfl, fun _ hwithin => hwithin⟩
  | unscoped =>
    refine ⟨hg, rfl, rfl, fun target hwithin => ?_⟩
    -- A role confines to its own namespace with or without a scope.
    by_cases hrole : g.target.kind = .role
    · simpa [confinement, hrole] using hwithin
    · simp [confinement, hrole, ResourceRef.liesWithin]
  | wholeKind h => exact absurd hg h

/-- A broader permission is one of the same role for the same verb, and covers what the old one
    did. -/
theorem permission (h : g.Broadens g') (hg : g.isPermission) :
    g'.isPermission ∧ g'.holder = g.holder ∧ g'.entitlement = g.entitlement ∧
      ∀ (confinement : Option String) (target : ResourceRef),
        g.target.covers confinement target → g'.target.covers confinement target := by
  cases h with
  | same => exact ⟨hg, rfl, rfl, fun _ _ hcov => hcov⟩
  | unscoped => exact ⟨hg, rfl, rfl, fun _ _ hcov => hcov⟩
  | wholeKind h =>
    -- Whether it is a permission is up to the kind of the target, which stays.
    exact ⟨hg, rfl, rfl, fun _ _ hcov => ResourceRef.covers_all_of_covers hcov⟩

end Grant.Broadens

namespace AccessGraph

variable {grants grants' : List Grant} {principal target : ResourceRef} {verb : String}
  {groups : List ResourceRef}

/-- One step to a broader list of grants: a grant is added anywhere, or one becomes broader. -/
inductive Broadens : List Grant → List Grant → Prop
  | add (front : List Grant) (g : Grant) (back : List Grant) :
      Broadens (front ++ back) (front ++ g :: back)
  | broaden (front : List Grant) {g g' : Grant} (back : List Grant) (h : g.Broadens g') :
      Broadens (front ++ g :: back) (front ++ g' :: back)

/-- For every grant there is one behind the step that is at least as broad. -/
theorem Broadens.exists_mem (h : Broadens grants grants') {g : Grant} (hg : g ∈ grants) :
    ∃ g' ∈ grants', g.Broadens g' := by
  cases h with
  | add front added back =>
    have hmem : g ∈ front ++ added :: back := by
      rcases List.mem_append.1 hg with hfront | hback
      · exact List.mem_append_left _ hfront
      · exact List.mem_append_right _ (List.mem_cons_of_mem _ hback)
    exact ⟨g, hmem, .same g⟩
  | @broaden front old new back hbroad =>
    rcases List.mem_append.1 hg with hfront | hback
    · exact ⟨g, List.mem_append_left _ hfront, .same g⟩
    · rcases List.mem_cons.1 hback with rfl | hback
      · exact ⟨new, List.mem_append_right _ List.mem_cons_self, hbroad⟩
      · exact ⟨g, List.mem_append_right _ (List.mem_cons_of_mem _ hback), .same g⟩

/-- One step to a broader list takes no access away. -/
theorem Broadens.can (h : Broadens grants grants')
    (hcan : (ofGrants grants).can principal verb target groups) :
    (ofGrants grants').can principal verb target groups := by
  obtain ⟨m, hm, hmember, hid, p, hp, hper, hholder, hverb, hcov⟩ := can_ofGrants_iff.1 hcan
  obtain ⟨m', hm', hmbroad⟩ := h.exists_mem hm
  obtain ⟨hmember', hmholder, hmtarget, hlets⟩ := hmbroad.membership hmember
  obtain ⟨p', hp', hpbroad⟩ := h.exists_mem hp
  obtain ⟨hper', hpholder, hpverb, hcovers⟩ := hpbroad.permission hper
  -- The new permission covers the target through the old membership, so through the new one too.
  have hcov' : p'.target.covers m'.confinement target := by
    have hwithin : target.liesWithin m.confinement := (ResourceRef.covers_iff.1 hcov).2.1
    exact ResourceRef.covers_of_liesWithin (hcovers _ _ hcov) (hlets _ hwithin)
  refine can_ofGrants_iff.2 ⟨m', hm', hmember', ?_, p', hp', hper', ?_, ?_, hcov'⟩
  · rw [hmholder]
    exact hid
  · rw [hpholder, hmtarget, hholder]
  · rw [hpverb, hverb]

/-- No number of steps to broader lists takes access away. -/
theorem can_of_broadens (h : Relation.ReflTransGen Broadens grants grants')
    (hcan : (ofGrants grants).can principal verb target groups) :
    (ofGrants grants').can principal verb target groups := by
  induction h with
  | refl => exact hcan
  | tail _ hstep ih => exact hstep.can ih

/-- Access is ordered by the breadth of grants: who has access to a kind as a whole has it to every
    object of the kind, by the same paths; every such path goes through a membership of a cluster
    role without a scope; and adding grants, clearing scopes and replacing the targets of
    permissions by their whole kinds, in any number, takes no access away. -/
theorem can_ordered_by_breadth (grants : List Grant) (principal : ResourceRef) (verb : String)
    (groups : List ResourceRef) :
    (∀ kind, (ofGrants grants).can principal verb (.all kind) groups →
      ∀ object, (ofGrants grants).can principal verb ⟨kind, object⟩ groups) ∧
    (∀ kind, ∀ path ∈ (ofGrants grants).explain principal verb (.all kind) groups,
      path.membership.target.kind = .clusterRole ∧ path.membership.scope = none ∧
        ∀ object, path ∈ (ofGrants grants).explain principal verb ⟨kind, object⟩ groups) ∧
    ∀ grants', Relation.ReflTransGen Broadens grants grants' →
      ∀ target, (ofGrants grants).can principal verb target groups →
        (ofGrants grants').can principal verb target groups := by
  refine ⟨fun kind hcan object => ?_, fun kind path hpath => ?_, fun grants' hbroad target => ?_⟩
  · obtain ⟨path, hpath⟩ := can_iff_exists_path.1 hcan
    exact can_iff_exists_path.2 ⟨path, mem_explain_of_mem_explain_all object hpath⟩
  · obtain ⟨⟨hkind, hscope⟩, -⟩ := wide_of_mem_explain_all hpath
    exact ⟨hkind, hscope, fun object => mem_explain_of_mem_explain_all object hpath⟩
  · exact can_of_broadens hbroad

/-- A member of the cluster role `viewer`, which may read objects called `db`; `scope` is what the
    membership is confined to. -/
def viewerGrants (scope : Option String) (read : ResourceRef) : List Grant := [
  ⟨member, ⟨.user, "alice"⟩, ⟨.clusterRole, "viewer"⟩, scope⟩,
  ⟨"get", ⟨.clusterRole, "viewer"⟩, read, none⟩]

/-- Without its scope and with the secrets as a whole, the membership still gives the secret
    `team-a/db`, and now every other one. -/
theorem can_ordered_by_breadth_viewer :
    (ofGrants (viewerGrants (some "team-a") ⟨.secret, "db"⟩)).can
        ⟨.user, "alice"⟩ "get" ⟨.secret, "team-a/db"⟩ [] ∧
      ¬ (ofGrants (viewerGrants (some "team-a") ⟨.secret, "db"⟩)).can
        ⟨.user, "alice"⟩ "get" ⟨.secret, "team-b/db"⟩ [] ∧
      (ofGrants (viewerGrants none (.all .secret))).can
        ⟨.user, "alice"⟩ "get" ⟨.secret, "team-a/db"⟩ [] ∧
      ∀ object, (ofGrants (viewerGrants none (.all .secret))).can
        ⟨.user, "alice"⟩ "get" ⟨.secret, object⟩ [] := by
  have hold : (ofGrants (viewerGrants (some "team-a") ⟨.secret, "db"⟩)).can
      ⟨.user, "alice"⟩ "get" ⟨.secret, "team-a/db"⟩ [] := by decide
  have hsteps : Relation.ReflTransGen Broadens (viewerGrants (some "team-a") ⟨.secret, "db"⟩)
      (viewerGrants none (.all .secret)) :=
    .tail (.single (.broaden [] _ (.unscoped _))) (.broaden [_] [] (.wholeKind _ (by decide)))
  have hlaws := can_ordered_by_breadth (viewerGrants (some "team-a") ⟨.secret, "db"⟩)
    ⟨.user, "alice"⟩ "get" []
  have hwide := can_ordered_by_breadth (viewerGrants none (.all .secret)) ⟨.user, "alice"⟩ "get" []
  exact ⟨hold, by decide, hlaws.2.2 _ hsteps _ hold, hwide.1 .secret (by decide)⟩

end AccessGraph
end ClusterAccess
