/-
  ClusterAccess.Grant.Permissions

  From the rules of a role to its permissions. A rule gives one permission for
  each of its verbs on each target; a target is the whole kind, or an object for
  each name that the rule lists. The permissions stand in the order in which
  they first arise, each once.
-/
import ClusterAccess.ApiGroup
import ClusterAccess.ClusterObject
import ClusterAccess.Distinct
import ClusterAccess.Grant.Memberships
import ClusterAccess.Verb

namespace ClusterAccess

/-- What a compiler meets, in order: a grant, or something to leave out. -/
abbrev GrantEvent := Except Skipped Grant

namespace PolicyRule

/-- The groups that a rule names; a rule without groups names the core group. -/
def groups (rule : PolicyRule) : List String :=
  if rule.apiGroups = [] then [""] else rule.apiGroups

/-- The pairs of group and resource that a rule names. -/
def pairs (rule : PolicyRule) : List (String × String) :=
  rule.groups.flatMap fun g => rule.resources.map fun r => (g, r)

/-- The reference to an object that a rule names: in the role's namespace, if the role has one and
the kind lives in namespaces. -/
def targetNamed (roleNs : String) (kind : ResourceKind) (name : String) :
    Except RefFault ResourceRef :=
  if roleNs ≠ "" ∧ kind.isNamespaced then ResourceRef.makeNamespaced kind roleNs name
  else ResourceRef.make kind name

/-- The targets of a rule among the objects of a kind. -/
def targets (holder : ResourceRef) (roleNs : String) (index : Nat) (kind : ResourceKind)
    (names : List String) : List (Except Skipped ResourceRef) :=
  if names = [] then [.ok (.all kind)]
  else names.map fun name =>
    (targetNamed roleNs kind name).mapError fun fault => .target holder index kind name fault

/-- What one pair of group and resource gives. -/
def pairEvents (holder : ResourceRef) (roleNs : String) (index : Nat) (rule : PolicyRule)
    (pair : String × String) : List GrantEvent :=
  match ResourceKind.ofRule? pair.1 pair.2 with
  | none => [.error (.unmapped holder index pair.1 pair.2)]
  | some kind =>
    (targets holder roleNs index kind rule.resourceNames).flatMap fun
      | .error skipped => [.error skipped]
      | .ok target => (Verb.effective rule.verbs).map fun verb => .ok ⟨verb, holder, target, none⟩

/-- What one rule gives. -/
def events (holder : ResourceRef) (roleNs : String) (index : Nat) (rule : PolicyRule) :
    List GrantEvent :=
  if rule.nonResourceUrls ≠ [] then
    [.error (.rule holder index (.nonResourceUrls rule.nonResourceUrls))]
  else if Verb.effective rule.verbs = [] then [.error (.rule holder index .noVerbs)]
  else rule.pairs.flatMap (pairEvents holder roleNs index rule)

end PolicyRule

namespace Grant

/-- What all rules of a role give, in order. -/
def permissionEvents (holder : ResourceRef) (roleNs : String) (rules : List PolicyRule) :
    List GrantEvent :=
  (rules.mapIdx (PolicyRule.events holder roleNs)).flatten

/-- The permissions of a role from its rules. `roleNs` is empty for a role of the cluster. -/
def permissions (holder : ResourceRef) (roleNs : String) (rules : List PolicyRule) : Compiled :=
  let events := permissionEvents holder roleNs rules
  { grants := firsts (events.filterMap fun e => e.toOption)
    skipped := events.filterMap fun | .ok _ => none | .error s => some s }

end Grant
end ClusterAccess
