/-
  ClusterAccess.Grant.Skipped

  Records of everything that the grant compilers leave out, so that nothing is
  dropped silently.
-/
import ClusterAccess.Binding

namespace ClusterAccess

/-- Why a rule gives no permissions at all. -/
inductive RuleSkip
  /-- The rule is about addresses outside of resources. -/
  | nonResourceUrls (urls : List String)
  /-- The rule lists no verb. -/
  | noVerbs
  deriving DecidableEq, Repr

/-- Something that gave no grant. -/
inductive Skipped
  /-- A subject of a binding names no principal. -/
  | subject (role : ResourceRef) (binding bindingNs : String) (fault : SubjectFault)
  /-- A rule gives nothing. -/
  | rule (holder : ResourceRef) (index : Nat) (reason : RuleSkip)
  /-- A pair of group and resource has no kind. -/
  | unmapped (holder : ResourceRef) (index : Nat) (apiGroup resource : String)
  /-- A listed name gives no reference. -/
  | target (holder : ResourceRef) (index : Nat) (kind : ResourceKind) (name : String)
      (fault : RefFault)
  deriving DecidableEq, Repr

namespace Skipped

/-- A record under a name, with its level first. -/
def record (event level : String) (fields : List (String × Json)) : Json :=
  .object (("event", .text event) :: ("log_level", .text level) :: fields)

/-- The fields of a record about a rule. -/
def ruleFields (holder : ResourceRef) (index : Nat) : List (String × Json) :=
  [("holder", .text holder.text), ("rule_index", .int index)]

/-- A record as a document. -/
def toJson : Skipped → Json
  | .subject role binding bindingNs fault =>
    record "rbac.subject_skipped" "warning" [
      ("role", .text role.text),
      ("binding", .text binding),
      ("binding_namespace", .text bindingNs),
      ("subject_kind", .text fault.subject.kind),
      ("subject_name", .text fault.subject.name),
      ("error", .text fault.message)]
  | .rule holder index (.nonResourceUrls urls) =>
    record "rbac.rule_skipped" "debug" (ruleFields holder index ++ [
      ("reason", .text "non_resource_urls"), ("urls", .ofTexts urls)])
  | .rule holder index .noVerbs =>
    record "rbac.rule_skipped" "debug" (ruleFields holder index ++ [("reason", .text "no_verbs")])
  | .unmapped holder index apiGroup resource =>
    record "rbac.unmapped_resource" "debug" (ruleFields holder index ++ [
      ("api_group", .text apiGroup), ("resource", .text resource)])
  | .target holder index kind name fault =>
    record "rbac.target_skipped" "warning" (ruleFields holder index ++ [
      ("target_type", .text kind.id),
      ("resource_name", .text name),
      ("error", .text fault.message)])

end Skipped
end ClusterAccess
