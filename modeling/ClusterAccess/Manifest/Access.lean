/-
  ClusterAccess.Manifest.Access

  Reading rules, role references, subjects and bindings. The parts of a binding
  are read before its own fields, so their faults come first.
-/
import ClusterAccess.Binding
import ClusterAccess.ClusterObject
import ClusterAccess.Manifest.Basic

namespace ClusterAccess

open Manifest

/-- Reads one rule. The addresses outside of resources have two spellings; the first that is not
empty counts. -/
def PolicyRule.read (j : Json) : Reading PolicyRule := do
  let verbs ← elements (j.field "verbs")
  let apiGroups ← elements (j.field "api_groups")
  let resources ← elements (j.field "resources")
  let resourceNames ← elements (j.field "resource_names")
  let urls ← elements ((j.field "non_resource_ur_ls").orElse (j.field "non_resource_urls"))
  finish (PolicyRule.mk <$> texts "verbs" verbs <*> texts "api_groups" apiGroups <*>
    texts "resources" resources <*> texts "resource_names" resourceNames <*>
    texts "non_resource_urls" urls)

/-- Reads a role reference. -/
def RoleRef.read (j : Json) : Reading RoleRef :=
  finish (RoleRef.mk <$> textOrEmpty "kind" j <*> textOrEmpty "name" j <*>
    textOrEmpty "api_group" j)

/-- Reads a subject. -/
def Subject.read (j : Json) : Reading Subject :=
  finish (Subject.mk <$> textOrEmpty "kind" j <*> textOrEmpty "name" j <*>
    textOrEmpty "namespace" j <*> textOrEmpty "api_group" j)

/-- Reads a binding inside a namespace. -/
def RoleBinding.read (j : Json) : Reading RoleBinding := do
  let roleRef ← RoleRef.read (j.field "role_ref")
  let subjects ← (← elements (j.field "subjects")).mapM Subject.read
  finish ((RoleBinding.mk · · roleRef subjects) <$> metadataText "name" j <*>
    metadataText "namespace" j)

/-- Reads a binding across the cluster. -/
def ClusterRoleBinding.read (j : Json) : Reading ClusterRoleBinding := do
  let roleRef ← RoleRef.read (j.field "role_ref")
  let subjects ← (← elements (j.field "subjects")).mapM Subject.read
  finish ((ClusterRoleBinding.mk · roleRef subjects) <$> metadataText "name" j)

end ClusterAccess
