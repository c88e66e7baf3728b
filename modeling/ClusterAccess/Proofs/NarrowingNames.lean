/-
  ClusterAccess.Proofs.NarrowingNames

  What the names in a rule are for. A rule that lists names is about these objects,
  and a rule without names is about the whole kind. The name `*` is kept as it
  stands, though, and as an object part of its own it reads as the whole kind: names
  narrow what rules give exactly if no rule lists `*` where names stand bare, or
  another rule gives the whole kind anyway.
-/
import ClusterAccess.Proofs.ObjectParts
import ClusterAccess.Proofs.PermissionEdges

namespace ClusterAccess

namespace PolicyRule

variable {rule : PolicyRule} {roleNs name verb : String} {kind : ResourceKind}

/-! ## Names that stand for a whole kind -/

/-- A rule gives a verb on objects of a kind, whichever objects these are. -/
def IsFor (rule : PolicyRule) (verb : String) (kind : ResourceKind) : Prop :=
  rule.nonResourceUrls = [] ∧ verb ∈ Verb.effective rule.verbs ∧
    ∃ group ∈ rule.groups, ∃ resource ∈ rule.resources, kind.IsSpelled group resource

/-- A role in `roleNs` reads the name `*` of a kind as the whole kind: the name stands bare, or
behind the namespace `*`. -/
def ReadsWhole (roleNs : String) (kind : ResourceKind) : Prop :=
  roleNs = "" ∨ roleNs = wildcard ∨ kind.isNamespaced = false

/-- Of all names, only `*` is ever read as a whole kind. -/
theorem objectNamed_eq_wildcard_iff :
    objectNamed roleNs kind name = wildcard ↔ name = wildcard ∧ ReadsWhole roleNs kind := by
  by_cases hplaced : roleNs ≠ "" ∧ kind.isNamespaced ∧ ¬ (roleNs = wildcard ∧ name = wildcard)
  case pos =>
    obtain ⟨hns, hkind, hwhole⟩ := hplaced
    rw [objectNamed_of_placed hns hkind hwhole]
    refine iff_of_false ResourceRef.namespaced_ne_wildcard fun ⟨hname, hreads⟩ => ?_
    rcases hreads with h | h | h
    · exact hns h
    · exact hwhole ⟨h, hname⟩
    · exact absurd (hkind.symm.trans h) (by decide)
  case neg =>
    rw [objectNamed_of_bare hplaced]
    refine ⟨fun hname => ⟨hname, ?_⟩, And.left⟩
    by_cases hns : roleNs = ""
    case pos => exact .inl hns
    case neg =>
      refine .inr ((Classical.em (roleNs = wildcard)).imp_right fun hstar => ?_)
      exact Bool.eq_false_iff.2 fun hkind => hplaced ⟨hns, hkind, fun h => hstar h.1⟩

/-- A rule gives a verb on a whole kind if it lists no names, or lists `*` where that is read as the
whole kind. -/
theorem gives_iff_of_isWildcard {target : ResourceRef} (hwhole : target.isWildcard) :
    rule.Gives roleNs verb target ↔
      rule.IsFor verb target.kind ∧
        (rule.resourceNames = [] ∨
          wildcard ∈ rule.resourceNames ∧ ReadsWhole roleNs target.kind) := by
  have hobject : target.object = wildcard := ResourceRef.isWildcard_iff.1 hwhole
  have hnamed : (∃ name ∈ rule.resourceNames, name ≠ "" ∧
      target.object = objectNamed roleNs target.kind name) ↔
        wildcard ∈ rule.resourceNames ∧ ReadsWhole roleNs target.kind := by
    constructor
    · rintro ⟨name, hmem, -, hname⟩
      obtain ⟨rfl, hreads⟩ := objectNamed_eq_wildcard_iff.1 (hname.symm.trans hobject)
      exact ⟨hmem, hreads⟩
    · rintro ⟨hmem, hreads⟩
      have hstar : objectNamed roleNs target.kind wildcard = wildcard :=
        objectNamed_eq_wildcard_iff.2 ⟨rfl, hreads⟩
      exact ⟨wildcard, hmem, by decide, hobject.trans hstar.symm⟩
  rw [gives_iff, hnamed, IsFor]
  simp only [hobject, and_true, and_assoc]

end PolicyRule

/-! ## Grants on a whole kind -/

namespace Grant

open PolicyRule (ReadsWhole gives_iff_of_isWildcard)

/-- The names in rules narrow what the rules give. -/
structure NamesNarrow (holder : ResourceRef) (roleNs : String) (rules : List PolicyRule) :
    Prop where
  /-- A verb on a whole kind comes from a rule without names. -/
  whole_of_nameless : ∀ g ∈ (permissions holder roleNs rules).grants, g.target.isWildcard →
    ∃ rule ∈ rules, rule.resourceNames = [] ∧ rule.IsFor g.entitlement g.target.kind
  /-- Rules that all list names give no verb on a whole kind. -/
  none_of_named : (∀ rule ∈ rules, rule.resourceNames ≠ []) →
    ∀ g ∈ (permissions holder roleNs rules).grants, ¬ g.target.isWildcard

/-- Names narrow what rules give exactly if whatever a rule gives by the name `*`, where this is
read as the whole kind, is also given by a rule without names. -/
theorem namesNarrow_iff (holder : ResourceRef) (roleNs : String) (rules : List PolicyRule) :
    NamesNarrow holder roleNs rules ↔
      ∀ rule ∈ rules, wildcard ∈ rule.resourceNames →
        ∀ verb kind, rule.IsFor verb kind → ReadsWhole roleNs kind →
          ∃ rule' ∈ rules, rule'.resourceNames = [] ∧ rule'.IsFor verb kind := by
  constructor
  · -- The rule gives the verb on the whole kind, and that has to come from somewhere else.
    intro hnarrow rule hrule hstar verb kind hfor hreads
    have hmem : (⟨verb, holder, .all kind, none⟩ : Grant) ∈
        (permissions holder roleNs rules).grants :=
      mem_permissions_iff.2 ⟨rfl, rfl, rule, hrule,
        (gives_iff_of_isWildcard rfl).2 ⟨hfor, .inr ⟨hstar, hreads⟩⟩⟩
    exact hnarrow.whole_of_nameless _ hmem rfl
  · intro hcovered
    have hwhole : ∀ g ∈ (permissions holder roleNs rules).grants, g.target.isWildcard →
        ∃ rule ∈ rules, rule.resourceNames = [] ∧ rule.IsFor g.entitlement g.target.kind := by
      intro g hg hwild
      obtain ⟨-, -, rule, hrule, hgives⟩ := mem_permissions_iff.1 hg
      obtain ⟨hfor, hnames | ⟨hstar, hreads⟩⟩ := (gives_iff_of_isWildcard hwild).1 hgives
      · exact ⟨rule, hrule, hnames, hfor⟩
      · exact hcovered rule hrule hstar _ _ hfor hreads
    refine ⟨hwhole, fun hnamed g hg hwild => ?_⟩
    obtain ⟨rule, hrule, hnames, -⟩ := hwhole g hg hwild
    exact hnamed rule hrule hnames

/-- A rule that lets its holder read the one secret that is called `*`. -/
def starred : PolicyRule where
  verbs := ["get"]
  apiGroups := [""]
  resources := ["secrets"]
  resourceNames := ["*"]

/-- In a role of the cluster, it lets its holder read every secret. -/
theorem not_namesNarrow_starred :
    (permissions ⟨.clusterRole, "reader"⟩ "" [starred]).grants =
        [⟨"get", ⟨.clusterRole, "reader"⟩, .all .secret, none⟩] ∧
      ¬ NamesNarrow ⟨.clusterRole, "reader"⟩ "" [starred] := by
  have hgrants : (permissions ⟨.clusterRole, "reader"⟩ "" [starred]).grants =
      [⟨"get", ⟨.clusterRole, "reader"⟩, .all .secret, none⟩] := by
    decide
  refine ⟨hgrants, fun hnarrow => ?_⟩
  refine hnarrow.none_of_named (by decide) ⟨"get", ⟨.clusterRole, "reader"⟩, .all .secret, none⟩
    ?_ rfl
  rw [hgrants]
  exact List.mem_singleton_self _

end Grant
end ClusterAccess
