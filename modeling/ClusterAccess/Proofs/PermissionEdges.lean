/-
  ClusterAccess.Proofs.PermissionEdges

  The permissions that rules give, edge by edge. A rule gives an edge for each of
  its pairs that spells a kind, each object that it is about and each of its verbs;
  the permissions of a role are the edges of its rules in this order, without the
  repetitions. More rules add what is new in them and change nothing else.
-/
import Mathlib.Data.List.Basic
import ClusterAccess.Proofs.CompiledGrants
import ClusterAccess.Proofs.FirstOccurrences

namespace ClusterAccess

/-! ## Parts of lists -/

section Lists

variable {α β γ : Type}

/-- To keep some elements and change them at once is to keep them first and then change them. -/
theorem filterMap_eq_map_filter {p : α → Prop} [DecidablePred p] {f : α → Option β} {g : α → β}
    (h : ∀ a, f a = if p a then some (g a) else none) (xs : List α) :
    xs.filterMap f = (xs.filter p).map g := by
  rw [← List.filterMap_eq_map, List.filterMap_filter]
  refine List.filterMap_congr fun a _ => ?_
  simp only [h, decide_eq_true_eq, Function.comp_apply]

/-- What is kept of numbered parts is kept part by part. -/
theorem filterMap_flatten_mapIdx (f : Nat → α → List β) (p : β → Option γ) (xs : List α) :
    ((xs.mapIdx f).flatten).filterMap p =
      (xs.mapIdx fun i x => (f i x).filterMap p).flatten := by
  induction xs generalizing f with
  | nil => rfl
  | cons x xs ih =>
    simp only [List.mapIdx_cons, List.flatten_cons, List.filterMap_append, ih]

/-- Where the numbers do not matter, the parts are those of the elements. -/
theorem flatten_mapIdx_const (f : α → List β) (xs : List α) :
    (xs.mapIdx fun _ => f).flatten = xs.flatMap f := by
  induction xs with
  | nil => rfl
  | cons x xs ih => rw [List.mapIdx_cons, List.flatten_cons, List.flatMap_cons, ih]

end Lists

/-! ## Spellings of kinds -/

namespace ApiGroup

/-- How a resource is written: in the plural, or without its last letter. -/
def spellings (plural : String) : List String :=
  [plural, singular plural]

/-- A group writes no two kinds alike. -/
theorem kind_eq_of_spelling (group : ApiGroup) : ∀ e ∈ group.plurals, ∀ e' ∈ group.plurals,
    ∀ resource ∈ spellings e.1, resource ∈ spellings e'.1 → e.2 = e'.2 := by
  cases group <;> decide +kernel

theorem kindOf?_eq_some_iff {group : ApiGroup} {resource : String} {kind : ResourceKind} :
    group.kindOf? resource = some kind ↔
      ∃ plural, (plural, kind) ∈ group.plurals ∧ resource ∈ spellings plural := by
  have hspelled : ∀ plural, resource ∈ spellings plural ↔
      plural = resource ∨ singular plural = resource := fun plural => by
    simp [spellings, eq_comm]
  simp only [kindOf?, Option.map_eq_some_iff]
  constructor
  · rintro ⟨⟨plural, kind⟩, hfind, rfl⟩
    have hmatch := List.find?_some hfind
    simp only [decide_eq_true_eq] at hmatch
    exact ⟨plural, List.mem_of_find?_eq_some hfind, (hspelled plural).2 hmatch⟩
  · rintro ⟨plural, hmem, hresource⟩
    -- Some entry is found, and whichever it is, it has the same kind.
    cases hfind : group.plurals.find? fun e => e.1 = resource ∨ singular e.1 = resource with
    | none =>
      have hnone := List.find?_eq_none.1 hfind _ hmem
      simp only [decide_eq_true_eq] at hnone
      exact absurd ((hspelled plural).1 hresource) hnone
    | some e =>
      have hmatch := List.find?_some hfind
      simp only [decide_eq_true_eq] at hmatch
      have he := List.mem_of_find?_eq_some hfind
      exact ⟨e, rfl, kind_eq_of_spelling group e he _ hmem resource ((hspelled e.1).2 hmatch)
        hresource⟩

end ApiGroup

namespace ResourceKind

/-- A group and a resource, as a rule writes them, spell a kind: the group has that name, and the
kind is one of its resources and is written so. -/
def IsSpelled (kind : ResourceKind) (apiGroup resource : String) : Prop :=
  ∃ group, ApiGroup.ofName? apiGroup = some group ∧
    ∃ plural, (plural, kind) ∈ group.plurals ∧ resource ∈ ApiGroup.spellings plural

theorem ofRule?_eq_some_iff {apiGroup resource : String} {kind : ResourceKind} :
    ofRule? apiGroup resource = some kind ↔ kind.IsSpelled apiGroup resource := by
  rw [ofRule?, IsSpelled]
  cases ApiGroup.ofName? apiGroup with
  | none => simp
  | some group => simp [ApiGroup.kindOf?_eq_some_iff]

end ResourceKind

/-! ## Objects -/

theorem ResourceRef.eq_mk_iff {target : ResourceRef} {object : String} :
    target = ⟨target.kind, object⟩ ↔ target.object = object :=
  ⟨fun h => congrArg ResourceRef.object h, fun h => h ▸ rfl⟩

namespace PolicyRule

variable {rule : PolicyRule} {holder target : ResourceRef} {roleNs name : String}
  {kind : ResourceKind} {index : Nat}

/-- The object part that a name in a rule gives: behind the namespace of the role, if the role has
one and the kind lives in namespaces, and else the bare name. The namespace `*` and the name `*` are
the whole kind together. -/
def objectNamed (roleNs : String) (kind : ResourceKind) (name : String) : String :=
  if roleNs ≠ "" ∧ kind.isNamespaced ∧ ¬ (roleNs = wildcard ∧ name = wildcard) then
    roleNs ++ "/" ++ name
  else name

/-- Why an empty name gives no object. -/
def namelessFault (roleNs : String) (kind : ResourceKind) : RefFault :=
  if roleNs ≠ "" ∧ kind.isNamespaced then .incomplete kind roleNs "" else .empty kind

theorem objectNamed_of_placed (hns : roleNs ≠ "") (hkind : kind.isNamespaced)
    (hwhole : ¬ (roleNs = wildcard ∧ name = wildcard)) :
    objectNamed roleNs kind name = roleNs ++ "/" ++ name :=
  if_pos ⟨hns, hkind, hwhole⟩

theorem objectNamed_of_bare
    (h : ¬ (roleNs ≠ "" ∧ kind.isNamespaced ∧ ¬ (roleNs = wildcard ∧ name = wildcard))) :
    objectNamed roleNs kind name = name :=
  if_neg h

/-- Every name but the empty one gives an object. -/
theorem targetNamed_eq (roleNs : String) (kind : ResourceKind) (name : String) :
    targetNamed roleNs kind name =
      if name = "" then .error (namelessFault roleNs kind)
      else .ok ⟨kind, objectNamed roleNs kind name⟩ := by
  unfold targetNamed
  by_cases hplaced : roleNs ≠ "" ∧ kind.isNamespaced
  case neg =>
    have hbare : objectNamed roleNs kind name = name :=
      objectNamed_of_bare fun h => hplaced ⟨h.1, h.2.1⟩
    rw [if_neg hplaced, ResourceRef.make, namelessFault, if_neg hplaced, hbare]
  case pos =>
    rw [if_pos hplaced, ResourceRef.makeNamespaced, namelessFault, if_pos hplaced]
    by_cases hwhole : roleNs = wildcard ∧ name = wildcard
    case pos =>
      have hname : name ≠ "" := by
        rw [hwhole.2]
        decide
      rw [if_pos hwhole, if_neg hname, objectNamed_of_bare fun h => h.2.2 hwhole, hwhole.2,
        ResourceRef.all]
    case neg =>
      rw [if_neg hwhole, objectNamed_of_placed hplaced.1 hplaced.2 hwhole]
      by_cases hname : name = ""
      case pos => rw [if_pos (Or.inr hname), if_pos hname, hname]
      case neg => rw [if_neg fun h => h.elim hplaced.1 hname, if_neg hname]

theorem targetNamed_eq_ok_iff : targetNamed roleNs target.kind name = .ok target ↔
    name ≠ "" ∧ target.object = objectNamed roleNs target.kind name := by
  rw [targetNamed_eq]
  by_cases hname : name = ""
  case pos => simp [hname]
  case neg =>
    rw [if_neg hname, Except.ok.injEq, eq_comm, ResourceRef.eq_mk_iff]
    exact (and_iff_right hname).symm

/-- The object parts of a kind that a rule is about: the whole kind, or one for each name. -/
def objects (rule : PolicyRule) (roleNs : String) (kind : ResourceKind) : List String :=
  if rule.resourceNames = [] then [wildcard]
  else (rule.resourceNames.filter fun name => name ≠ "").map (objectNamed roleNs kind)

/-- The targets of a rule are its objects. -/
theorem filterMap_toOption_targets (holder : ResourceRef) (roleNs : String) (index : Nat)
    (kind : ResourceKind) (rule : PolicyRule) :
    (targets holder roleNs index kind rule.resourceNames).filterMap (fun t => t.toOption) =
      (rule.objects roleNs kind).map (ResourceRef.mk kind) := by
  rw [targets, objects]
  split
  next => rfl
  next =>
    rw [List.filterMap_map, List.map_map]
    refine filterMap_eq_map_filter (fun name => ?_) _
    rw [Function.comp_apply, targetNamed_eq]
    by_cases hname : name = ""
    case pos => simp [hname, Except.mapError, Except.toOption]
    case neg => simp [hname, Except.mapError, Except.toOption]

/-- A rule gives a verb on a target if it is about resources and lists the verb, some group and
resource of it spell the kind, and the object is the whole kind or what a name gives. -/
theorem gives_iff {verb : String} :
    rule.Gives roleNs verb target ↔
      rule.nonResourceUrls = [] ∧ verb ∈ Verb.effective rule.verbs ∧
        (∃ group ∈ rule.groups, ∃ resource ∈ rule.resources,
          target.kind.IsSpelled group resource) ∧
        ((rule.resourceNames = [] ∧ target.object = wildcard) ∨
          ∃ name ∈ rule.resourceNames, name ≠ "" ∧
            target.object = objectNamed roleNs target.kind name) := by
  have hpairs : (∃ pair ∈ rule.pairs, ResourceKind.ofRule? pair.1 pair.2 = some target.kind) ↔
      ∃ group ∈ rule.groups, ∃ resource ∈ rule.resources,
        target.kind.IsSpelled group resource := by
    simp only [pairs, List.mem_flatMap, List.mem_map, ResourceKind.ofRule?_eq_some_iff]
    constructor
    · rintro ⟨_, ⟨group, hgroup, resource, hresource, rfl⟩, hkind⟩
      exact ⟨group, hgroup, resource, hresource, hkind⟩
    · rintro ⟨group, hgroup, resource, hresource, hkind⟩
      exact ⟨_, ⟨group, hgroup, resource, hresource, rfl⟩, hkind⟩
  rw [Gives, Reaches, hpairs, ResourceRef.all, ResourceRef.eq_mk_iff]
  simp only [targetNamed_eq_ok_iff]

/-! ## Edges -/

/-- The edges that one pair of a rule gives, by object and then by verb. -/
def pairEdges (holder : ResourceRef) (roleNs : String) (rule : PolicyRule)
    (pair : String × String) : List Grant :=
  match ResourceKind.ofRule? pair.1 pair.2 with
  | none => []
  | some kind => (rule.objects roleNs kind).flatMap fun object =>
      (Verb.effective rule.verbs).map fun verb => ⟨verb, holder, ⟨kind, object⟩, none⟩

/-- The edges that a rule gives, by group, resource, object and verb. -/
def edges (holder : ResourceRef) (roleNs : String) (rule : PolicyRule) : List Grant :=
  if rule.nonResourceUrls ≠ [] then [] else rule.pairs.flatMap (pairEdges holder roleNs rule)

/-- Every target gives a grant for each verb, and what is skipped gives none. -/
theorem filterMap_toOption_flatMap (grants : ResourceRef → List Grant)
    (ts : List (Except Skipped ResourceRef)) :
    (ts.flatMap fun t => match t with
      | .error skipped => [.error skipped]
      | .ok target => (grants target).map (Except.ok : Grant → GrantEvent)).filterMap
        (fun e => e.toOption) =
      (ts.filterMap fun t => t.toOption).flatMap grants := by
  induction ts with
  | nil => rfl
  | cons t ts ih =>
    rw [List.flatMap_cons, List.filterMap_append, ih]
    cases t with
    | error skipped => rfl
    | ok target =>
      have hkept : ((grants target).map (Except.ok : Grant → GrantEvent)).filterMap
          (fun e => e.toOption) = grants target := by
        rw [List.filterMap_map]
        exact List.filterMap_some
      exact congrArg (· ++ _) hkept

theorem filterMap_toOption_pairEvents (holder : ResourceRef) (roleNs : String) (index : Nat)
    (rule : PolicyRule) (pair : String × String) :
    (pairEvents holder roleNs index rule pair).filterMap (fun e => e.toOption) =
      pairEdges holder roleNs rule pair := by
  rw [pairEvents, pairEdges]
  cases ResourceKind.ofRule? pair.1 pair.2 with
  | none => rfl
  | some kind =>
    have hsplit := filterMap_toOption_flatMap
      (fun target => (Verb.effective rule.verbs).map fun verb => ⟨verb, holder, target, none⟩)
      (targets holder roleNs index kind rule.resourceNames)
    simp only [List.map_map] at hsplit
    rw [filterMap_toOption_targets, List.flatMap_map] at hsplit
    exact hsplit

/-- A rule gives its edges, wherever it stands. -/
theorem filterMap_toOption_events (holder : ResourceRef) (roleNs : String) (index : Nat)
    (rule : PolicyRule) :
    (events holder roleNs index rule).filterMap (fun e => e.toOption) =
      rule.edges holder roleNs := by
  rw [events, edges]
  split
  next => rfl
  next =>
    split
    next hverbs =>
      -- Without verbs there are no edges either.
      refine (List.flatMap_eq_nil_iff.2 fun pair _ => ?_).symm
      rw [pairEdges, hverbs]
      cases ResourceKind.ofRule? pair.1 pair.2 <;> simp
    next =>
      rw [List.filterMap_flatMap]
      exact List.flatMap_congr fun pair _ =>
        filterMap_toOption_pairEvents holder roleNs index rule pair

end PolicyRule

/-! ## Permissions -/

namespace Grant

/-- The permissions of a role are the edges of its rules, each at its first place. -/
theorem grants_permissions (holder : ResourceRef) (roleNs : String) (rules : List PolicyRule) :
    (permissions holder roleNs rules).grants =
      firsts (rules.flatMap (PolicyRule.edges holder roleNs)) := by
  have hedges : (permissionEvents holder roleNs rules).filterMap (fun e => e.toOption) =
      rules.flatMap (PolicyRule.edges holder roleNs) := by
    rw [permissionEvents, filterMap_flatten_mapIdx]
    simp only [PolicyRule.filterMap_toOption_events]
    exact flatten_mapIdx_const _ rules
  rw [permissions, hedges]

/-- Two spellings of a kind give one edge for each verb, and an empty name gives none. -/
example : (permissions ⟨.role, "team-a/reader"⟩ "team-a" [{
      verbs := ["list", "get"]
      resources := ["pods", "pod"]
      resourceNames := ["web", ""] }]).grants =
    [⟨"get", ⟨.role, "team-a/reader"⟩, ⟨.pod, "team-a/web"⟩, none⟩,
      ⟨"list", ⟨.role, "team-a/reader"⟩, ⟨.pod, "team-a/web"⟩, none⟩] := by
  decide

end Grant
end ClusterAccess
