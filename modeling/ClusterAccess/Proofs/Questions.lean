/-
  ClusterAccess.Proofs.Questions

  What can be asked about, and when a single rule answers for it. The reference
  that a rule gives comes in three shapes, a whole kind, `ns/name` and a bare name,
  and each covers what was asked about for a reason of its own; together they come
  to this: the rule names the object, or names none.
-/
import ClusterAccess.Proofs.CompiledGrants
import ClusterAccess.Proofs.GraphQueries
import ClusterAccess.Proofs.ObjectParts

namespace ClusterAccess

/-! ## Questions -/

/-- What is asked about: a kind as a whole, an object in a namespace, or one outside of them. -/
inductive Asked
  | whole (kind : ResourceKind)
  | placed (kind : ResourceKind) (ns name : String) (namespaced : kind.isNamespaced = true)
      (ns_ne : ns ≠ "") (slash_ns : '/' ∉ ns.toList) (name_ne : name ≠ "")
      (slash_name : '/' ∉ name.toList)
  | unplaced (kind : ResourceKind) (name : String) (unnamespaced : kind.isNamespaced = false)
      (name_ne : name ≠ "") (ne_wildcard : name ≠ wildcard)

namespace Asked

/-- The kind asked about. -/
def kind : Asked → ResourceKind
  | .whole kind => kind
  | .placed kind .. => kind
  | .unplaced kind .. => kind

/-- The reference that a question is asked with. -/
def ref : Asked → ResourceRef
  | .whole kind => .all kind
  | .placed kind ns name .. => ⟨kind, ns ++ "/" ++ name⟩
  | .unplaced kind name .. => ⟨kind, name⟩

variable {asked : Asked}

end Asked

/-! ## References that a rule gives -/

namespace ResourceRef

variable {asked : Asked} {name : String}

end ResourceRef

/-! ## Rules -/

namespace PolicyRule

variable {rule : PolicyRule} {asked : Asked} {roleNs verb name : String}
  {confinement : Option String}

end PolicyRule
end ClusterAccess
