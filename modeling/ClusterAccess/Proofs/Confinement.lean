/-
  ClusterAccess.Proofs.Confinement

  What memberships of one namespace reach. Who is only a member of roles of
  namespaces, and of cluster roles inside namespaces, reaches neither objects
  outside of namespaces nor a kind as a whole, and of the objects `ns/name` only
  those of these namespaces. A bare text as the object of a kind that lives in
  namespaces is taken for its own namespace: the text `ns` counts as lying in `ns`.
-/
import ClusterAccess.Proofs.GraphQueries
import ClusterAccess.Proofs.ObjectParts

namespace ClusterAccess

/-- A membership of the role `ns/name`, or of a cluster role inside `ns`. -/
def Grant.IsWithin (ns : String) (m : Grant) : Prop :=
  (m.target.kind = .role ∧ '/' ∉ ns.toList ∧ ∃ name, m.target.object = ns ++ "/" ++ name) ∨
    (m.target.kind = .clusterRole ∧ m.scope = some ns)

/-- All memberships that the identities hold are within namespaces. -/
def Grant.AllWithin (grants : List Grant) (identities : List ResourceRef) : Prop :=
  ∀ m ∈ grants, m.isMembership → m.holder ∈ identities → ∃ ns, m.IsWithin ns

theorem Grant.IsWithin.confinement_eq {m : Grant} {ns : String} (h : m.IsWithin ns) :
    m.confinement = some ns := by
  rcases h with ⟨hkind, hns, name, hobject⟩ | ⟨hkind, hscope⟩
  · -- A role confines to what stands before the slash of its own id.
    rw [confinement, if_pos hkind]
    exact congrArg some (ResourceRef.nsPart_eq_iff.2 ⟨hns, .inr ⟨name, hobject⟩⟩)
  · rw [confinement, if_neg (by rw [hkind]; decide), hscope]

/-- A permission covers a target through a membership within `ns` if the target lives in
    namespaces, is not the whole kind, and is `ns/name` or the bare text `ns`. -/
theorem Grant.IsWithin.covers_iff {m : Grant} {ns : String} {granted target : ResourceRef}
    (h : m.IsWithin ns) :
    granted.covers m.confinement target ↔
      target.kind.isNamespaced ∧ target.isWildcard = false ∧
        ('/' ∉ ns.toList ∧ (target.object = ns ∨ ∃ name, target.object = ns ++ "/" ++ name)) ∧
          granted.kind = target.kind ∧ granted.isAbout target := by
  rw [h.confinement_eq, ResourceRef.covers_iff, ResourceRef.liesWithin_some_iff,
    ResourceRef.nsPart_eq_iff]
  constructor
  · rintro ⟨hkind, ⟨hnamed, hwild, hns⟩, habout⟩
    exact ⟨hnamed, hwild, hns, hkind, habout⟩
  · rintro ⟨hnamed, hwild, hns, hkind, habout⟩
    exact ⟨hkind, ⟨hnamed, hwild, hns⟩, habout⟩

namespace AccessGraph

/-- The target is `ns/name`, or the bare text `ns`, for the namespace `ns` of a membership that the
    identities hold and whose role has a permission for the verb that is about the target. -/
def ReachedWithin (grants : List Grant) (identities : List ResourceRef) (verb : String)
    (target : ResourceRef) : Prop :=
  ∃ m ∈ grants, m.isMembership ∧ m.holder ∈ identities ∧
    ∃ ns, m.IsWithin ns ∧
      ('/' ∉ ns.toList ∧ (target.object = ns ∨ ∃ name, target.object = ns ++ "/" ++ name)) ∧
        ∃ p ∈ grants, p.isPermission ∧ p.holder = m.target ∧ p.entitlement = verb ∧
          p.target.kind = target.kind ∧ p.target.isAbout target

/-- Access by memberships within namespaces, exactly: the target lives in namespaces, is not the
    whole kind, and is `ns/name` for the namespace `ns` of a membership whose role has a permission
    about it. The one exception is the bare text `ns`, which is reached as well. -/
theorem can_iff_of_allWithin (grants : List Grant) (principal : ResourceRef)
    (groups : List ResourceRef) (verb : String) (target : ResourceRef)
    (h : Grant.AllWithin grants (principal :: groups)) :
    (ofGrants grants).can principal verb target groups ↔
      target.kind.isNamespaced ∧ target.isWildcard = false ∧
        ReachedWithin grants (principal :: groups) verb target := by
  rw [can_ofGrants_iff]
  constructor
  · -- The namespace is that of the membership on the path; other memberships do not matter.
    rintro ⟨m, hm, hmem, hid, p, hp, hper, hholder, hverb, hcov⟩
    obtain ⟨ns, hwithin⟩ := h m hm hmem hid
    obtain ⟨hnamed, hwild, hns, hkind, habout⟩ := hwithin.covers_iff.1 hcov
    exact ⟨hnamed, hwild, m, hm, hmem, hid, ns, hwithin, hns, p, hp, hper, hholder, hverb,
      hkind, habout⟩
  · rintro ⟨hnamed, hwild, m, hm, hmem, hid, ns, hwithin, hns, p, hp, hper, hholder, hverb,
      hkind, habout⟩
    have hcov := hwithin.covers_iff.2 ⟨hnamed, hwild, hns, hkind, habout⟩
    exact ⟨m, hm, hmem, hid, p, hp, hper, hholder, hverb, hcov⟩

/-- A member of the role `team-a/reader`, which may read all pods. -/
def readerGrants : List Grant := [
  ⟨member, ⟨.user, "alice"⟩, ⟨.role, "team-a/reader"⟩, none⟩,
  ⟨"get", ⟨.role, "team-a/reader"⟩, .all .pod, none⟩]

theorem allWithin_readerGrants : Grant.AllWithin readerGrants [⟨.user, "alice"⟩] := by
  intro m hm hmem _
  rcases List.mem_cons.1 hm with rfl | hm
  · exact ⟨"team-a", .inl ⟨rfl, by decide, "reader", by decide⟩⟩
  · rw [List.mem_singleton.1 hm] at hmem
    exact absurd hmem (by decide)

/-- An object of the namespace is reached through the membership, one of another namespace is
    not. -/
theorem reachedWithin_readerGrants :
    Grant.AllWithin readerGrants [⟨.user, "alice"⟩] ∧
      ReachedWithin readerGrants [⟨.user, "alice"⟩] "get" ⟨.pod, "team-a/web"⟩ ∧
        ¬ ReachedWithin readerGrants [⟨.user, "alice"⟩] "get" ⟨.pod, "team-b/web"⟩ := by
  refine ⟨allWithin_readerGrants, ?_, ?_⟩
  · exact ((can_iff_of_allWithin readerGrants ⟨.user, "alice"⟩ [] "get" ⟨.pod, "team-a/web"⟩
      allWithin_readerGrants).1 (by decide)).2.2
  · intro hreached
    have hcan := (can_iff_of_allWithin readerGrants ⟨.user, "alice"⟩ [] "get" ⟨.pod, "team-b/web"⟩
      allWithin_readerGrants).2 ⟨by decide, by decide, hreached⟩
    exact absurd hcan (by decide)

/-- The bare text `team-a` is reached by a member of a role of the namespace `team-a`, though it is
    no object of that namespace nor of any other one. -/
theorem can_bare_text_of_allWithin :
    Grant.AllWithin readerGrants [⟨.user, "alice"⟩] ∧
      (ofGrants readerGrants).can ⟨.user, "alice"⟩ "get" ⟨.pod, "team-a"⟩ [] ∧
        ¬ ∃ ns name, (⟨.pod, "team-a"⟩ : ResourceRef).object = ns ++ "/" ++ name := by
  refine ⟨allWithin_readerGrants, by decide, ?_⟩
  rintro ⟨ns, name, hobject⟩
  -- An object of a namespace holds a slash, the text does not.
  have hslash : '/' ∈ "team-a".toList := by
    rw [show "team-a" = ns ++ "/" ++ name from hobject, ResourceRef.toList_namespaced]
    simp
  exact absurd hslash (by decide)

end AccessGraph
end ClusterAccess
