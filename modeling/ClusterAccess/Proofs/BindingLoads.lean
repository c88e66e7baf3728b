/-
  ClusterAccess.Proofs.BindingLoads

  What a query of the binding cache does: nothing but answer while a load counts,
  and otherwise a load of both lists first.
-/
import ClusterAccess.BindingCache
import ClusterAccess.Proofs.Actions

namespace ClusterAccess.BindingCache

/-- A load reads one list and then the other, and publishes both; where either fails, all that is
    left is that the last load no longer counts. -/
theorem load_apply (l : Linked BindingCache) :
    load l = match Gateway.allRoleBindings l.gateway with
      | .error e g => .error e ⟨l.own.drop, g⟩
      | .ok roleBindings g =>
        match Gateway.allClusterRoleBindings g with
        | .error e g' => .error e ⟨l.own.drop, g'⟩
        | .ok clusterRoleBindings g' =>
          .ok () ⟨l.own.drop.publish g'.clock roleBindings clusterRoleBindings, g'⟩ := by
  simp only [load, Action.bind_apply, Action.modify_apply, Linked.fetch_apply]
  -- The mark that the load no longer counts is set before either list is asked for.
  cases Gateway.allRoleBindings l.gateway with
  | error e g => rfl
  | ok roleBindings g =>
    simp only
    cases Gateway.allClusterRoleBindings g <;> rfl

theorem ensureLoaded_of_isFresh {l : Linked BindingCache}
    (h : l.own.isFresh l.gateway.clock) : ensureLoaded l = .ok () l := by
  simp only [ensureLoaded, Action.bind_apply, Action.get_apply, h, if_true]
  rfl

theorem ensureLoaded_of_not_isFresh {l : Linked BindingCache}
    (h : l.own.isFresh l.gateway.clock = false) : ensureLoaded l = load l := by
  simp only [ensureLoaded, Action.bind_apply, Action.get_apply, h]
  rfl

theorem matchingRole_apply (ns name : String) (l : Linked BindingCache) :
    matchingRole ns name l = match ensureLoaded l with
      | .ok _ l' => .ok (l'.own.ofRole ns name) l'
      | .error e l' => .error e l' := by
  simp only [matchingRole, Action.bind_apply]
  cases ensureLoaded l <;> rfl

theorem matchingClusterRole_apply (name : String) (l : Linked BindingCache) :
    matchingClusterRole name l = match ensureLoaded l with
      | .ok _ l' => .ok (l'.own.confinedTo name, l'.own.clusterWideTo name) l'
      | .error e l' => .error e l' := by
  simp only [matchingClusterRole, Action.bind_apply]
  cases ensureLoaded l <;> rfl

end ClusterAccess.BindingCache
