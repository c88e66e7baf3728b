/-
  ClusterAccess.ClusterObject

  Objects of the cluster: what every listed object says about itself, and the
  rules of roles.
-/
import ClusterAccess.Json.Basic
import ClusterAccess.Timestamp

namespace ClusterAccess

/-- One rule of a role. -/
structure PolicyRule where
  verbs : List String := []
  apiGroups : List String := []
  resources : List String := []
  resourceNames : List String := []
  nonResourceUrls : List String := []
  deriving DecidableEq, Repr, Inhabited

/-- A rule as a document. -/
def PolicyRule.toJson (r : PolicyRule) : Json := .object [
  ("verbs", .ofTexts r.verbs),
  ("api_groups", .ofTexts r.apiGroups),
  ("resources", .ofTexts r.resources),
  ("resource_names", .ofTexts r.resourceNames),
  ("non_resource_urls", .ofTexts r.nonResourceUrls)]

/-- What every listed object says about itself. `attributes` holds what only its kind has. -/
structure ClusterObject where
  kind : String
  name : String
  ns : Option String := none
  uid : Option String := none
  labels : List (String × String) := []
  annotations : List (String × String) := []
  createdAt : Option Timestamp := none
  attributes : List (String × Json) := []
  deriving Repr, Inhabited

namespace ClusterObject

/-- Texts by name as a document. -/
def textMap (fields : List (String × String)) : Json :=
  .object (fields.map fun f => (f.1, .text f.2))

/-- The fields of an object as a document. -/
def jsonFields (o : ClusterObject) : List (String × Json) := [
  ("kind", .text o.kind),
  ("name", .text o.name),
  ("namespace", .ofText? o.ns),
  ("uid", .ofText? o.uid),
  ("labels", textMap o.labels),
  ("annotations", textMap o.annotations),
  ("created_at", .ofText? (o.createdAt.map Timestamp.documentText)),
  ("attributes", .object o.attributes)]

/-- An object as a document. -/
def toJson (o : ClusterObject) : Json :=
  .object o.jsonFields

end ClusterObject

/-- A role of one namespace. -/
structure Role where
  object : ClusterObject
  rules : List PolicyRule := []
  deriving Repr, Inhabited

/-- A role as a document. -/
def Role.toJson (r : Role) : Json :=
  .object (r.object.jsonFields ++ [("rules", .array (r.rules.map PolicyRule.toJson))])

/-- A role of the whole cluster. Its object has no namespace. -/
structure ClusterRole where
  object : ClusterObject
  rules : List PolicyRule := []
  aggregation : Option (List (String × Json)) := none
  deriving Repr, Inhabited

/-- A cluster role as a document. -/
def ClusterRole.toJson (r : ClusterRole) : Json :=
  .object (r.object.jsonFields ++ [
    ("rules", .array (r.rules.map PolicyRule.toJson)),
    ("aggregation_rule", (r.aggregation.map Json.object).getD .null)])

end ClusterAccess
