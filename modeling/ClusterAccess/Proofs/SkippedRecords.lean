/-
  ClusterAccess.Proofs.SkippedRecords

  What the two grant compilers leave out, record by record. Of the subjects of the
  bindings, each gives a membership or a record, and which one shows in the subject
  and in the namespace of its binding. Of the rules, each is recorded as a whole, or
  by those of its pairs that have no kind and those of its names that are empty; all
  else that it lists has its edge.
-/
import ClusterAccess.Proofs.PermissionEdges

namespace ClusterAccess

/-! ## Records -/

/-- What is left of an outcome without its answer. -/
def errorOf? {ε α : Type} : Except ε α → Option ε
  | .ok _ => none
  | .error e => some e

namespace Skipped

/-- The name that a record goes by. -/
def event : Skipped → String
  | .subject .. => "rbac.subject_skipped"
  | .rule .. => "rbac.rule_skipped"
  | .unmapped .. => "rbac.unmapped_resource"
  | .target .. => "rbac.target_skipped"

/-- A record is written under its name. -/
theorem field_event (s : Skipped) : s.toJson.field "event" = .text s.event := by
  cases s with
  | rule holder index reason => cases reason <;> rfl
  | _ => rfl

end Skipped

/-! ## Subjects -/

namespace SubjectKind

theorem ofName?_eq_some_iff {word : String} {kind : SubjectKind} :
    ofName? word = some kind ↔ word = kind.name := by
  constructor
  · intro h
    unfold ofName? at h
    split at h <;> cases h <;> rfl
  · rintro rfl
    cases kind <;> rfl

/-- A word that names no kind is none of the three. -/
theorem ofName?_eq_none_iff {word : String} :
    ofName? word = none ↔ ∀ kind : SubjectKind, word ≠ kind.name := by
  simp only [Option.eq_none_iff_forall_ne_some, ne_eq, ofName?_eq_some_iff]

end SubjectKind

theorem Subject.homeIn_eq_empty_iff {s : Subject} {bindingNs : String} :
    s.homeIn bindingNs = "" ↔ s.ns = "" ∧ bindingNs = "" := by
  unfold homeIn
  split
  next hns => simp [hns]
  next hns => simp [hns]

namespace Occurrence

/-- A subject names nobody: its kind is none of the three, its name is empty, or it is a service
account and neither it nor its binding has a namespace. -/
def NamesNobody (o : Occurrence) : Prop :=
  (o.subject.kind ≠ "User" ∧ o.subject.kind ≠ "Group" ∧ o.subject.kind ≠ "ServiceAccount") ∨
    o.subject.name = "" ∨
    (o.subject.kind = "ServiceAccount" ∧ o.subject.ns = "" ∧ o.binding.ns = "")
  deriving Decidable

/-- Whom a subject names, if it names anybody. -/
def principal (o : Occurrence) : ResourceRef :=
  if o.subject.kind = "ServiceAccount" then
    ⟨.serviceAccount, o.subject.homeIn o.binding.ns ++ "/" ++ o.subject.name⟩
  else if o.subject.kind = "Group" then ⟨.group, o.subject.name⟩
  else ⟨.user, o.subject.name⟩

/-- Why a subject names nobody, if it names nobody. -/
def fault (o : Occurrence) : SubjectFault :=
  match o.subject.subjectKind with
  | none => .unsupported o.subject
  | some .serviceAccount => .homeless o.subject
  | some kind => .nameless kind o.subject

variable {o : Occurrence} {kind : SubjectKind}

/-- A subject of one of the three kinds names nobody without a name, or as a service account
without a namespace. -/
theorem namesNobody_iff (hkind : o.subject.kind = kind.name) :
    o.NamesNobody ↔ o.subject.name = "" ∨
      kind = .serviceAccount ∧ o.subject.homeIn o.binding.ns = "" := by
  rw [NamesNobody, hkind, Subject.homeIn_eq_empty_iff]
  cases kind <;> simp [SubjectKind.name]

/-- A subject names its principal, or else there is a fault with it. -/
theorem resolve_eq (o : Occurrence) :
    o.subject.resolve o.binding.ns = if o.NamesNobody then .error o.fault else .ok o.principal := by
  rw [Subject.resolve, fault]
  cases hkind : o.subject.subjectKind with
  | none =>
    have hother := SubjectKind.ofName?_eq_none_iff.1 hkind
    have hnobody : o.NamesNobody := .inl ⟨hother .user, hother .group, hother .serviceAccount⟩
    rw [if_pos hnobody]
  | some kind =>
    have hname : o.subject.kind = kind.name := SubjectKind.ofName?_eq_some_iff.1 hkind
    simp only [namesNobody_iff hname, principal, hname]
    cases kind <;> simp [SubjectKind.name, or_comm]

/-- The membership that a subject gives. -/
def membership (role : ResourceRef) (confined : Bool) (o : Occurrence) : Grant :=
  ⟨member, o.principal, role, o.binding.scope confined⟩

/-- The record of a subject that gives none. -/
def record (role : ResourceRef) (o : Occurrence) : Skipped :=
  .subject role o.binding.name o.binding.ns o.fault

theorem compile_eq (role : ResourceRef) (confined : Bool) (o : Occurrence) :
    o.compile role confined =
      if o.NamesNobody then .error (o.record role) else .ok (o.membership role confined) := by
  rw [compile, resolve_eq]
  by_cases hnobody : o.NamesNobody
  case pos => rw [if_pos hnobody, if_pos hnobody, record]
  case neg => rw [if_neg hnobody, if_neg hnobody, membership]

end Occurrence

namespace Grant

/-- The memberships of a role are those of the subjects that name somebody, in order. -/
theorem grants_memberships (role : ResourceRef) (confined : Bool) (bindings : List Binding) :
    (memberships role confined bindings).grants =
      ((Binding.occurrences bindings).filter fun o => ¬ o.NamesNobody).map
        (Occurrence.membership role confined) := by
  have hkept : ∀ o : Occurrence, (o.compile role confined).toOption =
      if ¬ o.NamesNobody then some (o.membership role confined) else none := fun o => by
    rw [Occurrence.compile_eq]
    by_cases hnobody : o.NamesNobody <;> simp [hnobody, Except.toOption]
  exact List.filterMap_map.trans (filterMap_eq_map_filter hkept _)

/-- The records are those of the other subjects, in order. -/
theorem skipped_memberships (role : ResourceRef) (confined : Bool) (bindings : List Binding) :
    (memberships role confined bindings).skipped =
      ((Binding.occurrences bindings).filter fun o => o.NamesNobody).map
        (Occurrence.record role) := by
  have hkept : ∀ o : Occurrence, errorOf? (o.compile role confined) =
      if o.NamesNobody then some (o.record role) else none := fun o => by
    rw [Occurrence.compile_eq]
    by_cases hnobody : o.NamesNobody <;> simp [hnobody, errorOf?]
  have hrecords : (memberships role confined bindings).skipped =
      ((Binding.occurrences bindings).map (Occurrence.compile role confined)).filterMap errorOf? :=
    List.filterMap_congr fun e _ => by cases e <;> rfl
  exact hrecords.trans (List.filterMap_map.trans (filterMap_eq_map_filter hkept _))

end Grant

/-! ## Rules -/

namespace PolicyRule

/-- What is recorded of one pair of a rule: the pair, if it has no kind, or else each empty name. -/
def pairOmissions (holder : ResourceRef) (roleNs : String) (index : Nat) (rule : PolicyRule)
    (pair : String × String) : List Skipped :=
  match ResourceKind.ofRule? pair.1 pair.2 with
  | none => [.unmapped holder index pair.1 pair.2]
  | some kind => (rule.resourceNames.filter fun name => name = "").map fun name =>
      .target holder index kind name (namelessFault roleNs kind)

/-- What is recorded of a rule: the rule, if it gives nothing at all, or else what is recorded of
its pairs. -/
def omissions (holder : ResourceRef) (roleNs : String) (index : Nat) (rule : PolicyRule) :
    List Skipped :=
  if rule.nonResourceUrls ≠ [] then [.rule holder index (.nonResourceUrls rule.nonResourceUrls)]
  else if Verb.effective rule.verbs = [] then [.rule holder index .noVerbs]
  else rule.pairs.flatMap (pairOmissions holder roleNs index rule)

/-- Of the targets of a rule, the empty names are recorded. -/
theorem filterMap_errorOf?_targets (holder : ResourceRef) (roleNs : String) (index : Nat)
    (kind : ResourceKind) (names : List String) :
    (targets holder roleNs index kind names).filterMap errorOf? =
      (names.filter fun name => name = "").map fun name =>
        .target holder index kind name (namelessFault roleNs kind) := by
  rw [targets]
  split
  next hnames => rw [hnames]; rfl
  next =>
    rw [List.filterMap_map]
    refine filterMap_eq_map_filter (fun name => ?_) _
    rw [Function.comp_apply, targetNamed_eq]
    by_cases hname : name = "" <;> simp [hname, Except.mapError, errorOf?]

/-- The records of the targets are all that is recorded behind them. -/
theorem filterMap_errorOf?_flatMap (grants : ResourceRef → List Grant)
    (ts : List (Except Skipped ResourceRef)) :
    (ts.flatMap fun t => match t with
      | .error skipped => [.error skipped]
      | .ok target => (grants target).map (Except.ok : Grant → GrantEvent)).filterMap errorOf? =
      ts.filterMap errorOf? := by
  induction ts with
  | nil => rfl
  | cons t ts ih =>
    rw [List.flatMap_cons, List.filterMap_append, ih]
    cases t with
    | error skipped => rfl
    | ok target =>
      -- Grants are no records, however many verbs there are.
      have hnone : ((grants target).map (Except.ok : Grant → GrantEvent)).filterMap errorOf? =
          [] := by
        rw [List.filterMap_map]
        exact List.filterMap_eq_nil_iff.2 fun _ _ => rfl
      exact congrArg (· ++ _) hnone

theorem filterMap_errorOf?_pairEvents (holder : ResourceRef) (roleNs : String) (index : Nat)
    (rule : PolicyRule) (pair : String × String) :
    (pairEvents holder roleNs index rule pair).filterMap errorOf? =
      pairOmissions holder roleNs index rule pair := by
  rw [pairEvents, pairOmissions]
  cases ResourceKind.ofRule? pair.1 pair.2 with
  | none => rfl
  | some kind =>
    have hrecords := filterMap_errorOf?_flatMap
      (fun target => (Verb.effective rule.verbs).map fun verb => ⟨verb, holder, target, none⟩)
      (targets holder roleNs index kind rule.resourceNames)
    simp only [List.map_map] at hrecords
    rw [filterMap_errorOf?_targets] at hrecords
    exact hrecords

theorem filterMap_errorOf?_events (holder : ResourceRef) (roleNs : String) (index : Nat)
    (rule : PolicyRule) :
    (events holder roleNs index rule).filterMap errorOf? =
      rule.omissions holder roleNs index := by
  rw [events, omissions]
  split
  next => rfl
  next =>
    split
    next => rfl
    next =>
      rw [List.filterMap_flatMap]
      exact List.flatMap_congr fun pair _ =>
        filterMap_errorOf?_pairEvents holder roleNs index rule pair

end PolicyRule

namespace Grant

/-- The records of the rules of a role are the omissions of each rule, in order. -/
theorem skipped_permissions (holder : ResourceRef) (roleNs : String) (rules : List PolicyRule) :
    (permissions holder roleNs rules).skipped =
      (rules.mapIdx (PolicyRule.omissions holder roleNs)).flatten := by
  have hrecords : (permissions holder roleNs rules).skipped =
      (permissionEvents holder roleNs rules).filterMap errorOf? :=
    List.filterMap_congr fun e _ => by cases e <;> rfl
  rw [hrecords, permissionEvents, filterMap_flatten_mapIdx]
  simp only [PolicyRule.filterMap_errorOf?_events]

/-- Each verb of a rule about resources has its edge, for each pair that has a kind and each object
of that kind that the rule is about. -/
theorem edge_mem_permissions {holder : ResourceRef} {roleNs : String} {rules : List PolicyRule}
    {rule : PolicyRule} {pair : String × String} {kind : ResourceKind} {object verb : String}
    (hrule : rule ∈ rules) (hurls : rule.nonResourceUrls = []) (hpair : pair ∈ rule.pairs)
    (hkind : ResourceKind.ofRule? pair.1 pair.2 = some kind)
    (hobject : object ∈ rule.objects roleNs kind) (hverb : verb ∈ Verb.effective rule.verbs) :
    (⟨verb, holder, ⟨kind, object⟩, none⟩ : Grant) ∈ (permissions holder roleNs rules).grants := by
  have hedge : (⟨verb, holder, ⟨kind, object⟩, none⟩ : Grant) ∈
      PolicyRule.pairEdges holder roleNs rule pair := by
    rw [PolicyRule.pairEdges, hkind]
    exact List.mem_flatMap.2 ⟨object, hobject, List.mem_map.2 ⟨verb, hverb, rfl⟩⟩
  have hedges : (⟨verb, holder, ⟨kind, object⟩, none⟩ : Grant) ∈ rule.edges holder roleNs := by
    rw [PolicyRule.edges, if_neg (not_not_intro hurls)]
    exact List.mem_flatMap.2 ⟨pair, hpair, hedge⟩
  rw [grants_permissions, mem_firsts]
  exact List.mem_flatMap.2 ⟨rule, hrule, hedges⟩

/-- Nothing is dropped silently. The subjects of the bindings are divided, in order, into those that
give one membership and those that give one record, which are those that name nobody. The rules are
recorded, in order, by what each of them leaves out: the rule itself, a pair without a kind, or an
empty name of a pair with one. Every other pair, object and verb of a rule has its edge. And each
record is written under its name. -/
theorem nothing_dropped (role : ResourceRef) (confined : Bool) (bindings : List Binding)
    (holder : ResourceRef) (roleNs : String) (rules : List PolicyRule) :
    (memberships role confined bindings).grants =
      ((Binding.occurrences bindings).filter fun o => ¬ o.NamesNobody).map
        (Occurrence.membership role confined) ∧
    (memberships role confined bindings).skipped =
      ((Binding.occurrences bindings).filter fun o => o.NamesNobody).map
        (Occurrence.record role) ∧
    (permissions holder roleNs rules).skipped =
      (rules.mapIdx (PolicyRule.omissions holder roleNs)).flatten ∧
    (∀ rule ∈ rules, rule.nonResourceUrls = [] → ∀ pair ∈ rule.pairs, ∀ kind,
      ResourceKind.ofRule? pair.1 pair.2 = some kind →
        ∀ object ∈ rule.objects roleNs kind, ∀ verb ∈ Verb.effective rule.verbs,
          ⟨verb, holder, ⟨kind, object⟩, none⟩ ∈ (permissions holder roleNs rules).grants) ∧
    ∀ s : Skipped, s.toJson.field "event" = .text s.event := by
  refine ⟨grants_memberships role confined bindings, skipped_memberships role confined bindings,
    skipped_permissions holder roleNs rules, ?_, Skipped.field_event⟩
  intro rule hrule hurls pair hpair kind hkind object hobject verb hverb
  exact edge_mem_permissions hrule hurls hpair hkind hobject hverb

/-- A binding of a team, two of whose subjects name nobody. -/
def crew : RoleBinding where
  name := "crew"
  ns := "team-a"
  roleRef := ⟨"ClusterRole", "view", ""⟩
  subjects := [⟨"User", "alice", "", ""⟩, ⟨"Robot", "r2", "", ""⟩, ⟨"User", "", "", ""⟩,
    ⟨"ServiceAccount", "ci", "", ""⟩]

/-- A binding across the cluster, of a service account that is at home nowhere. -/
def strays : ClusterRoleBinding where
  name := "strays"
  roleRef := ⟨"ClusterRole", "view", ""⟩
  subjects := [⟨"ServiceAccount", "ci", "", ""⟩, ⟨"Group", "ops", "", ""⟩]

/-- Rules of which only the last one gives anything. -/
def patchwork : List PolicyRule := [
  { verbs := ["get"], nonResourceUrls := ["/healthz"] },
  { verbs := [], apiGroups := [""], resources := ["pods"] },
  { verbs := ["get"], resources := ["widgets", "pods"], resourceNames := ["", "web", ""] }]

/-- Of six subjects three name somebody, and of three rules the last one has one edge; all else is
on record, each thing in its place. -/
theorem nothing_dropped_crew :
    let view : ResourceRef := ⟨.clusterRole, "view"⟩
    (memberships view true [.inNamespace crew, .clusterWide strays]).grants.map Grant.holder =
        [⟨.user, "alice"⟩, ⟨.serviceAccount, "team-a/ci"⟩, ⟨.group, "ops"⟩] ∧
      (memberships view true [.inNamespace crew, .clusterWide strays]).skipped.map Skipped.event =
        ["rbac.subject_skipped", "rbac.subject_skipped", "rbac.subject_skipped"] ∧
      (permissions view "" patchwork).skipped =
        [.rule view 0 (.nonResourceUrls ["/healthz"]), .rule view 1 .noVerbs,
          .unmapped view 2 "" "widgets", .target view 2 .pod "" (.empty .pod),
          .target view 2 .pod "" (.empty .pod)] ∧
      ⟨"get", view, ⟨.pod, "web"⟩, none⟩ ∈ (permissions view "" patchwork).grants := by
  intro view
  obtain ⟨hgrants, hsubjects, hrules, hedges, -⟩ :=
    nothing_dropped view true [.inNamespace crew, .clusterWide strays] view "" patchwork
  refine ⟨?_, ?_, ?_, ?_⟩
  · rw [hgrants]
    decide
  · rw [hsubjects]
    decide
  · rw [hrules]
    decide
  · refine hedges ⟨["get"], [], ["widgets", "pods"], ["", "web", ""], []⟩ ?_ rfl ("", "pods") ?_
      .pod ?_ "web" ?_ "get" ?_ <;> decide

end Grant
end ClusterAccess
