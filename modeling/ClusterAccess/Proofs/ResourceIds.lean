/-
  ClusterAccess.Proofs.ResourceIds

  What the id of a resource in a snapshot tells. Every object of a listed kind has a
  resource of its own, behind the one that stands for the whole kind. Ids are told
  apart as long as no object is called by the word that stands for the whole kind;
  an object that is shares the id of the whole kind, and a user or group that is
  takes it.
-/
import Mathlib.Data.List.Nodup
import ClusterAccess.Proofs.HeldSnapshots
import ClusterAccess.Proofs.OfferedMemberships

namespace ClusterAccess

/-- Keys are told apart if they are within each class of keys. -/
theorem nodup_map_iff_forall_filter {α κ ι : Type} [DecidableEq ι] (key : α → κ) (cls : κ → ι)
    {xs : List α} :
    (xs.map key).Nodup ↔ ∀ i, ((xs.filter fun x => cls (key x) = i).map key).Nodup := by
  constructor
  · intro hnodup i
    exact hnodup.sublist (List.filter_sublist.map key)
  · intro hall
    induction xs with
    | nil => exact List.nodup_nil
    | cons x xs ih =>
      have hfirst := hall (cls (key x))
      rw [List.filter_cons_of_pos (by simp), List.map_cons, List.nodup_cons] at hfirst
      rw [List.map_cons, List.nodup_cons]
      refine ⟨fun hmem => ?_, ih fun i => ?_⟩
      · -- An element with the same key would be in the same class.
        obtain ⟨y, hy, heq⟩ := List.mem_map.1 hmem
        have hclass : y ∈ xs.filter fun z => cls (key z) = cls (key x) :=
          List.mem_filter.2 ⟨hy, decide_eq_true (congrArg cls heq)⟩
        have hkey : key y ∈ (xs.filter fun z => cls (key z) = cls (key x)).map key :=
          List.mem_map_of_mem hclass
        rw [heq] at hkey
        exact hfirst.1 hkey
      · exact (hall i).sublist (((List.sublist_cons_self x xs).filter _).map key)

/-! ## Objects and their references -/

/-- The names of an object spell the reference to its whole kind. -/
def ClusterObject.SpellsWildcard (kind : ResourceKind) (o : ClusterObject) : Prop :=
  o.name = wildcard ∧ (kind.isNamespaced → o.ns = some wildcard)

instance (kind : ResourceKind) : DecidablePred (ClusterObject.SpellsWildcard kind) :=
  fun _ => inferInstanceAs (Decidable (_ ∧ _))

/-- The objects of a kind can be told apart by namespace and name: no two have both in common, all
have names, and where the kind lives in namespaces, all have one, without a slash in it. -/
structure NamedApart (kind : ResourceKind) (objects : List ClusterObject) : Prop where
  nodup : (objects.map fun o => (o.ns, o.name)).Nodup
  name : ∀ o ∈ objects, o.name ≠ ""
  ns : kind.isNamespaced → ∀ o ∈ objects, ∃ ns, o.ns = some ns ∧ ns ≠ "" ∧ '/' ∉ ns.toList

namespace Resource

variable {kind : ResourceKind} {o o' : ClusterObject} {objects : List ClusterObject}

theorem refOf_bare (hkind : kind.isNamespaced = false) (hname : o.name ≠ "") :
    refOf kind o = .ok ⟨kind, o.name⟩ := by
  rw [refOf, if_neg (by simp [hkind]), ResourceRef.make, if_neg hname]

theorem refOf_namespaced (hkind : kind.isNamespaced) {ns : String} (hns : o.ns = some ns)
    (hne : ns ≠ "") (hname : o.name ≠ "") (hspells : ¬ o.SpellsWildcard kind) :
    refOf kind o = .ok ⟨kind, ns ++ "/" ++ o.name⟩ := by
  have hboth : ¬ (ns = wildcard ∧ o.name = wildcard) := by
    rintro ⟨rfl, hwild⟩
    exact hspells ⟨hwild, fun _ => hns⟩
  rw [refOf, if_pos hkind, hns, Option.getD_some,
    ResourceRef.makeNamespaced_of_parts kind hne hname hboth]

/-- An object that is called like its whole kind has the reference of the whole kind. -/
theorem refOf_of_spellsWildcard (h : o.SpellsWildcard kind) : refOf kind o = .ok (.all kind) := by
  obtain ⟨hname, hns⟩ := h
  cases hkind : kind.isNamespaced with
  | false =>
    have hne : o.name ≠ "" := by
      rw [hname]
      decide
    rw [refOf_bare hkind hne, hname]
    rfl
  | true =>
    rw [refOf, if_pos hkind, hns hkind, Option.getD_some,
      ResourceRef.makeNamespaced_of_whole kind ⟨rfl, hname⟩]

/-- Every object has a reference, which is that of its whole kind only if its names spell it. -/
theorem exists_refOf (h : NamedApart kind objects) (ho : o ∈ objects) :
    ∃ ref, refOf kind o = .ok ref ∧ (ref = .all kind ↔ o.SpellsWildcard kind) := by
  by_cases hspells : o.SpellsWildcard kind
  case pos => exact ⟨_, refOf_of_spellsWildcard hspells, iff_of_true rfl hspells⟩
  case neg =>
    cases hkind : kind.isNamespaced with
    | false =>
      refine ⟨_, refOf_bare hkind (h.name o ho), iff_of_false ?_ hspells⟩
      intro heq
      refine hspells ⟨congrArg ResourceRef.object heq, fun hnamespaced => ?_⟩
      rw [hkind] at hnamespaced
      cases hnamespaced
    | true =>
      obtain ⟨ns, hns, hne, -⟩ := h.ns hkind o ho
      refine ⟨_, refOf_namespaced hkind hns hne (h.name o ho) hspells, iff_of_false ?_ hspells⟩
      intro heq
      exact ResourceRef.namespaced_ne_wildcard (congrArg ResourceRef.object heq)

/-- In a kind that lives in namespaces, an object is known by its reference. -/
theorem refOf_inj_namespaced (h : NamedApart kind objects) (hkind : kind.isNamespaced)
    (ho : o ∈ objects) (ho' : o' ∈ objects) (heq : refOf kind o = refOf kind o') :
    (o.ns, o.name) = (o'.ns, o'.name) := by
  obtain ⟨ref, href, hwhole⟩ := exists_refOf h ho
  obtain ⟨ref', href', hwhole'⟩ := exists_refOf h ho'
  obtain rfl : ref = ref' := by
    rw [href, href'] at heq
    exact Except.ok.inj heq
  by_cases hspells : o.SpellsWildcard kind
  case pos =>
    -- Then the other one spells the whole kind as well.
    have hspells' : o'.SpellsWildcard kind := hwhole'.1 (hwhole.2 hspells)
    rw [hspells.1, hspells'.1, hspells.2 hkind, hspells'.2 hkind]
  case neg =>
    have hspells' : ¬ o'.SpellsWildcard kind := fun h' => hspells (hwhole.1 (hwhole'.2 h'))
    obtain ⟨ns, hns, hne, hslash⟩ := h.ns hkind o ho
    obtain ⟨ns', hns', hne', hslash'⟩ := h.ns hkind o' ho'
    rw [refOf_namespaced hkind hns hne (h.name o ho) hspells] at href
    rw [refOf_namespaced hkind hns' hne' (h.name o' ho') hspells'] at href'
    have hrefs : (⟨kind, ns ++ "/" ++ o.name⟩ : ResourceRef) = ⟨kind, ns' ++ "/" ++ o'.name⟩ :=
      Except.ok.inj (href.trans href'.symm)
    have hnsEq : ns = ns' :=
      calc
        ns = ResourceRef.nsPart ⟨kind, ns ++ "/" ++ o.name⟩ :=
          (ResourceRef.nsPart_namespaced hslash).symm
        _ = ResourceRef.nsPart ⟨kind, ns' ++ "/" ++ o'.name⟩ := by rw [hrefs]
        _ = ns' := ResourceRef.nsPart_namespaced hslash'
    have hnameEq : o.name = o'.name :=
      calc
        o.name = ResourceRef.namePart ⟨kind, ns ++ "/" ++ o.name⟩ :=
          (ResourceRef.namePart_namespaced hslash).symm
        _ = ResourceRef.namePart ⟨kind, ns' ++ "/" ++ o'.name⟩ := by rw [hrefs]
        _ = o'.name := ResourceRef.namePart_namespaced hslash'
    rw [hns, hns', hnsEq, hnameEq]

/-- The references of the objects of a kind are all different if the kind lives in namespaces, and
otherwise if the names are. -/
theorem nodup_refOf_iff (h : NamedApart kind objects) :
    (objects.map (refOf kind)).Nodup ↔
      (kind.isNamespaced = false → (objects.map ClusterObject.name).Nodup) := by
  cases hkind : kind.isNamespaced with
  | true =>
    have hinj : ∀ o ∈ objects, ∀ o' ∈ objects, refOf kind o = refOf kind o' → o = o' :=
      fun o ho o' ho' heq =>
        List.inj_on_of_nodup_map h.nodup ho ho' (refOf_inj_namespaced h hkind ho ho' heq)
    have hnodup : (objects.map (refOf kind)).Nodup := (h.nodup.of_map _).map_on hinj
    exact iff_of_true hnodup fun hbare => by cases hbare
  | false =>
    have hrefs : objects.map (refOf kind) =
        (objects.map ClusterObject.name).map fun name => .ok ⟨kind, name⟩ := by
      rw [List.map_map]
      exact List.map_congr_left fun o ho => refOf_bare hkind (h.name o ho)
    have hinjective : Function.Injective
        fun name => (.ok ⟨kind, name⟩ : Except RefFault ResourceRef) := by
      intro name name' heq
      exact congrArg ResourceRef.object (Except.ok.inj heq)
    rw [hrefs, List.nodup_map_iff hinjective]
    exact ⟨fun hnodup _ => hnodup, fun hnodup => hnodup rfl⟩

/-! ## Resources of objects -/

/-- A resource is that of an object: it has the reference to the object, and its name. -/
structure IsOf (kind : ResourceKind) (o : ClusterObject) (r : Resource) : Prop where
  ref : refOf kind o = .ok r.ref
  displayName : r.displayName = o.name

variable {now : String} {listed : List Resource} {r : Resource}

theorem exists_ofObject {ref : ResourceRef} (description : Option String)
    (href : refOf kind o = .ok ref) : ∃ r, ofObject kind description o = .ok r ∧ IsOf kind o r := by
  rw [ofObject, href]
  exact ⟨_, rfl, href, rfl⟩

theorem exists_isOf_ofClusterRole {role : ClusterRole} {ref : ResourceRef}
    (href : refOf .clusterRole role.object = .ok ref) :
    ∃ r, ofClusterRole role = .ok r ∧ IsOf .clusterRole role.object r := by
  obtain ⟨r, hr, hof⟩ := exists_ofObject none href
  rw [ofClusterRole, hr]
  exact ⟨_, rfl, hof.ref, hof.displayName⟩

/-- Where every object has a resource, a listing has them behind the one of the whole kind. -/
theorem exists_resourcesOf {α : Type} {object : α → ClusterObject}
    {toResource : α → Except RefFault Resource} {xs : List α}
    (hto : ∀ x ∈ xs, ∃ r, toResource x = .ok r ∧ IsOf kind (object x) r) :
    ∃ listed, Catalog.resourcesOf now kind toResource true xs = whole now kind :: listed ∧
      List.Forall₂ (IsOf kind) (xs.map object) listed := by
  refine ⟨_, rfl, ?_⟩
  induction xs with
  | nil => exact .nil
  | cons x xs ih =>
    obtain ⟨r, hr, hof⟩ := hto x List.mem_cons_self
    rw [List.filterMap_cons_some (by rw [hr]; rfl)]
    exact .cons hof (ih fun y hy => hto y (List.mem_cons_of_mem _ hy))

theorem map_ref_of_forall₂ (h : List.Forall₂ (IsOf kind) objects listed) :
    (listed.map ref).map .ok = objects.map (refOf kind) := by
  induction h with
  | nil => rfl
  | cons hof _ ih => rw [List.map_cons, List.map_cons, List.map_cons, ih, hof.ref]

/-- The resource of an object has the reference of the whole kind if the object's names spell it. -/
theorem IsOf.ref_eq_all_iff (hof : IsOf kind o r) (h : NamedApart kind objects)
    (ho : o ∈ objects) : r.ref = .all kind ↔ o.SpellsWildcard kind := by
  obtain ⟨ref, href, hwhole⟩ := exists_refOf h ho
  obtain rfl : ref = r.ref := Except.ok.inj (href.symm.trans hof.ref)
  exact hwhole

/-- The resource of an object called like its whole kind is not the one of the whole kind. -/
theorem IsOf.ne_whole (hof : IsOf kind o r) (hname : o.name = wildcard) : r ≠ whole now kind := by
  intro heq
  have htitle : "All " ++ kind.title = wildcard := by
    rw [← hname, ← hof.displayName, heq]
    rfl
  revert htitle
  cases kind <;> decide

/-- The ids of a kind are told apart if no object spells that of the whole kind, and names are told
apart where they are all that an id has. -/
theorem nodup_ref_listed_iff (hlisted : List.Forall₂ (IsOf kind) objects listed)
    (h : NamedApart kind objects) :
    ((whole now kind :: listed).map ref).Nodup ↔
      (∀ o ∈ objects, ¬ o.SpellsWildcard kind) ∧
        (kind.isNamespaced = false → (objects.map ClusterObject.name).Nodup) := by
  have hrest : (listed.map ref).Nodup ↔
      (kind.isNamespaced = false → (objects.map ClusterObject.name).Nodup) := by
    have hinjective : Function.Injective (.ok : ResourceRef → Except RefFault ResourceRef) :=
      fun _ _ => Except.ok.inj
    rw [← nodup_refOf_iff h, ← map_ref_of_forall₂ hlisted, List.nodup_map_iff hinjective]
  have hfirst : ResourceRef.all kind ∉ listed.map ref ↔ ∀ o ∈ objects, ¬ o.SpellsWildcard kind := by
    constructor
    · intro hnot o ho hspells
      obtain ⟨r, hr, hof⟩ := exists_right_of_mem hlisted ho
      exact hnot (List.mem_map.2 ⟨r, hr, (hof.ref_eq_all_iff h ho).2 hspells⟩)
    · intro hspares hmem
      obtain ⟨r, hr, href⟩ := List.mem_map.1 hmem
      obtain ⟨o, ho, hof⟩ := exists_left_of_mem hlisted hr
      exact hspares o ho ((hof.ref_eq_all_iff h ho).1 href)
  rw [List.map_cons, List.nodup_cons, hrest]
  exact and_congr_left fun _ => hfirst

/-- The whole kind keeps its id to itself if no object spells it. -/
theorem forall_whole_listed_iff (hlisted : List.Forall₂ (IsOf kind) objects listed)
    (h : NamedApart kind objects) :
    (∀ r ∈ whole now kind :: listed, r.ref = .all kind → r = whole now kind) ↔
      ∀ o ∈ objects, ¬ o.SpellsWildcard kind := by
  constructor
  · intro hwhole o ho hspells
    obtain ⟨r, hr, hof⟩ := exists_right_of_mem hlisted ho
    have href : r.ref = .all kind := (hof.ref_eq_all_iff h ho).2 hspells
    exact hof.ne_whole hspells.1 (hwhole r (List.mem_cons_of_mem _ hr) href)
  · intro hspares r hr href
    rcases List.mem_cons.1 hr with rfl | hr
    · rfl
    · obtain ⟨o, ho, hof⟩ := exists_left_of_mem hlisted hr
      exact absurd ((hof.ref_eq_all_iff h ho).1 href) (hspares o ho)

end Resource

/-! ## Users and groups -/

namespace PrincipalListing

variable {principal : PrincipalKind} {names : List String} {now : String}

theorem nodup_ref_resources (hnames : names.Nodup) :
    ((resources principal names).map Resource.ref).Nodup := by
  have hrefs : (resources principal names).map Resource.ref =
      names.map fun name => ⟨principal.kind, name⟩ := by
    rw [resources, List.map_map]
    rfl
  have hinjective : Function.Injective
      fun name => (⟨principal.kind, name⟩ : ResourceRef) :=
    fun _ _ heq => congrArg ResourceRef.object heq
  rw [hrefs, List.nodup_map_iff hinjective]
  exact hnames

/-- A user or group that is called like all of them is none of the resources of whole kinds. -/
theorem forall_whole_resources_iff :
    (∀ r ∈ resources principal names, r.ref = .all principal.kind →
      r = .whole now principal.kind) ↔ wildcard ∉ names := by
  constructor
  · intro hwhole hmem
    have heq : Resource.ofPrincipal principal.kind wildcard = .whole now principal.kind :=
      hwhole _ (List.mem_map_of_mem hmem) rfl
    have htitle : wildcard = "All " ++ principal.kind.title :=
      congrArg Resource.displayName heq
    revert htitle
    cases principal <;> decide
  · intro hnot r hr href
    obtain ⟨name, hname, rfl⟩ := List.mem_map.1 hr
    obtain rfl : name = wildcard := congrArg ResourceRef.object href
    exact absurd hname hnot

/-- Nobody built in is called like all users or groups. -/
theorem wildcard_mem_everyone_iff {bindings : Contents} :
    wildcard ∈ everyone principal bindings.roleBindings bindings.clusterRoleBindings ↔
      ∃ b ∈ bindings.allBindings, b.Names (.all principal.kind) := by
  have hbuiltIn : wildcard ∉ principal.builtIn := by cases principal <;> decide
  rw [mem_everyone_iff, or_iff_right hbuiltIn]
  rfl

end PrincipalListing

/-! ## Kinds of a cluster -/

namespace Holdings

variable {h : Holdings} {now : String} {settings : Settings} {s : Snapshot} {c : Catalog}
  {kind : ResourceKind} {objects : List ClusterObject} {found : List Resource}

/-- The list of the objects of a kind. Kinds without objects have an empty one. -/
def objectsOf (h : Holdings) (kind : ResourceKind) : Held ClusterObject :=
  match kind with
  | .role => h.roles.map fun roles => roles.map (Except.map Role.object)
  | .clusterRole => h.clusterRoles.map fun roles => roles.map (Except.map ClusterRole.object)
  | kind =>
    match Inventory.ofKind? kind with
    | some i => h.objects i
    | none => .ok []

/-- These are the objects of a kind, and each of them can be read. -/
def Holds (h : Holdings) (kind : ResourceKind) (objects : List ClusterObject) : Prop :=
  h.objectsOf kind = .ok (objects.map .ok)

/-- Of some kinds, no object is called like its whole kind. -/
def SparesWildcard (h : Holdings) (kinds : List ResourceKind) : Prop :=
  ∀ kind ∈ kinds, ∀ objects, h.Holds kind objects → ∀ o ∈ objects, ¬ o.SpellsWildcard kind

/-- In those of some kinds that do not live in namespaces, no two objects share a name. -/
def NamesBare (h : Holdings) (kinds : List ResourceKind) : Prop :=
  ∀ kind ∈ kinds, ∀ objects, h.Holds kind objects →
    kind.isNamespaced = false → (objects.map ClusterObject.name).Nodup

/-- No binding names a user or group that is called like all of them. -/
def SparesPrincipals (h : Holdings) : Prop :=
  ∀ bindings, h.bindings = .ok bindings → ∀ b ∈ bindings.allBindings,
    ∀ principal : PrincipalKind, ¬ b.Names (.all principal.kind)

theorem holds_unique {objects' : List ClusterObject} (hobjects : h.Holds kind objects)
    (hobjects' : h.Holds kind objects') : objects = objects' := by
  have hmap : objects.map Except.ok = objects'.map Except.ok :=
    Except.ok.inj (hobjects.symm.trans hobjects')
  exact List.map_injective_iff.2 (fun _ _ => Except.ok.inj) hmap

/-- What a snapshot has of a kind of objects: the whole kind, and then every object. -/
def Lists (h : Holdings) (now : String) (kind : ResourceKind) (found : List Resource) : Prop :=
  ∃ objects listed, h.Holds kind objects ∧ found = .whole now kind :: listed ∧
    List.Forall₂ (Resource.IsOf kind) objects listed

/-- What a snapshot has of a kind of principals. -/
def ListsPrincipals (h : Holdings) (principal : PrincipalKind) (found : List Resource) : Prop :=
  ∃ bindings, h.bindings = .ok bindings ∧ found = PrincipalListing.resources principal
    (PrincipalListing.everyone principal bindings.roleBindings bindings.clusterRoleBindings)

/-! ## Catalogues -/

/-- A catalogue of plain objects or of roles lists the objects of its kind. -/
theorem lists_of_resources (hfound : h.resources now c = .ok found)
    (hnamed : ∀ objects, h.Holds c.kind objects → NamedApart c.kind objects)
    (hnobody : ∀ principal : PrincipalKind, c.kind ≠ principal.kind) :
    h.Lists now c.kind found := by
  cases c with
  | inventory i =>
    obtain ⟨objects, hread, rfl⟩ := exists_of_map_ok hfound
    have hholds : h.Holds i.kind objects := by
      have hlist : h.objectsOf i.kind = h.objects i := by cases i <;> rfl
      rw [Holds, hlist]
      exact Held.eq_of_read_ok hread
    have hto : ∀ o ∈ objects, ∃ r, Resource.ofInventory i o = .ok r ∧
        Resource.IsOf i.kind (id o) r := by
      intro o ho
      obtain ⟨ref, href, -⟩ := Resource.exists_refOf (hnamed objects hholds) ho
      exact Resource.exists_ofObject _ href
    obtain ⟨listed, hlisted, hof⟩ := Resource.exists_resourcesOf hto
    rw [List.map_id] at hof
    exact ⟨objects, listed, hholds, hlisted, hof⟩
  | roles =>
    obtain ⟨roles, hread, rfl⟩ := exists_of_map_ok hfound
    have hholds : h.Holds .role (roles.map Role.object) := by
      rw [Holds, objectsOf, Held.eq_of_read_ok hread, Except.map, List.map_map, List.map_map]
      rfl
    have hto : ∀ r ∈ roles, ∃ resource, Resource.ofRole r = .ok resource ∧
        Resource.IsOf .role r.object resource := by
      intro r hr
      obtain ⟨ref, href, -⟩ :=
        Resource.exists_refOf (hnamed _ hholds) (List.mem_map_of_mem hr)
      exact Resource.exists_ofObject none href
    obtain ⟨listed, hlisted, hof⟩ := Resource.exists_resourcesOf hto
    exact ⟨_, listed, hholds, hlisted, hof⟩
  | clusterRoles cache =>
    obtain ⟨roles, hread, rfl⟩ := exists_of_map_ok hfound
    have hholds : h.Holds .clusterRole (roles.map ClusterRole.object) := by
      rw [Holds, objectsOf, Held.eq_of_read_ok hread, Except.map, List.map_map, List.map_map]
      rfl
    have hto : ∀ r ∈ roles, ∃ resource, Resource.ofClusterRole r = .ok resource ∧
        Resource.IsOf .clusterRole r.object resource := by
      intro r hr
      obtain ⟨ref, href, -⟩ :=
        Resource.exists_refOf (hnamed _ hholds) (List.mem_map_of_mem hr)
      exact Resource.exists_isOf_ofClusterRole href
    obtain ⟨listed, hlisted, hof⟩ := Resource.exists_resourcesOf hto
    exact ⟨_, listed, hholds, hlisted, hof⟩
  | principals listing => exact absurd rfl (hnobody listing.principal)

/-- Users and groups have no objects. -/
theorem eq_nil_of_holds_principal {principal : PrincipalKind}
    (hholds : h.Holds principal.kind objects) : objects = [] := by
  have hnone : h.objectsOf principal.kind = .ok [] := by cases principal <;> rfl
  rw [Holds, hnone] at hholds
  exact List.map_eq_nil_iff.1 (Except.ok.inj hholds).symm

/-! ## Snapshots -/

section

variable (hs : h.snapshot now settings = .ok s)
include hs

theorem listsPrincipals_of_snapshot (principal : PrincipalKind) :
    h.ListsPrincipals principal (s.resourcesOf principal.kind) := by
  have hfound : h.resources now (.principals { principal }) =
      .ok (s.resourcesOf principal.kind) :=
    resources_of_snapshot hs (Auditor.principals_mem_freshCatalogs settings principal)
  obtain ⟨bindings, hbindings, hpure⟩ := exists_of_bind_ok hfound
  exact ⟨bindings, hbindings, (Except.ok.inj hpure).symm⟩

/-- All users and groups keep their id to themselves if no binding names them. -/
theorem forall_whole_principals_iff (principal : PrincipalKind) :
    (∀ r ∈ s.resourcesOf principal.kind, r.ref = .all principal.kind →
      r = .whole now principal.kind) ↔
      ∀ bindings, h.bindings = .ok bindings → ∀ b ∈ bindings.allBindings,
        ¬ b.Names (.all principal.kind) := by
  obtain ⟨bindings, hbindings, hfound⟩ := listsPrincipals_of_snapshot hs principal
  rw [hfound, PrincipalListing.forall_whole_resources_iff,
    PrincipalListing.wildcard_mem_everyone_iff]
  constructor
  · intro hnobody bindings' hbindings' b hb hnames
    obtain rfl : bindings' = bindings := Except.ok.inj (hbindings'.symm.trans hbindings)
    exact hnobody ⟨b, hb, hnames⟩
  · rintro hspares ⟨b, hb, hnames⟩
    exact hspares bindings hbindings b hb hnames

variable (hnamed : ∀ kind objects, h.Holds kind objects → NamedApart kind objects)
include hnamed

theorem lists_of_snapshot (hkind : kind ∈ s.kinds)
    (hnobody : ∀ principal : PrincipalKind, kind ≠ principal.kind) :
    h.Lists now kind (s.resourcesOf kind) := by
  rw [kinds_of_snapshot hs] at hkind
  obtain ⟨c, hc, rfl⟩ := List.mem_map.1 hkind
  exact lists_of_resources (resources_of_snapshot hs hc) (hnamed c.kind) hnobody

/-- Of one kind, ids are told apart if no object spells the whole kind and bare names are. -/
theorem nodup_ref_resourcesOf_iff (hkind : kind ∈ s.kinds) :
    ((s.resourcesOf kind).map Resource.ref).Nodup ↔
      ∀ objects, h.Holds kind objects → (∀ o ∈ objects, ¬ o.SpellsWildcard kind) ∧
        (kind.isNamespaced = false → (objects.map ClusterObject.name).Nodup) := by
  by_cases hprincipal : ∃ principal : PrincipalKind, kind = principal.kind
  case pos =>
    -- A listing of principals gives no name twice, and there are no objects.
    obtain ⟨principal, rfl⟩ := hprincipal
    obtain ⟨bindings, -, hfound⟩ := listsPrincipals_of_snapshot hs principal
    refine iff_of_true ?_ fun objects hholds => ?_
    · rw [hfound, ← PrincipalListing.fresh_new]
      exact PrincipalListing.nodup_ref_resources (nodup_firstsAfter _ _)
    · rw [eq_nil_of_holds_principal hholds]
      exact ⟨fun o ho => absurd ho List.not_mem_nil, fun _ => List.nodup_nil⟩
  case neg =>
    obtain ⟨objects, listed, hholds, hfound, hof⟩ :=
      lists_of_snapshot hs hnamed hkind fun principal heq => hprincipal ⟨principal, heq⟩
    rw [hfound, Resource.nodup_ref_listed_iff hof (hnamed kind objects hholds)]
    constructor
    · intro hapart objects' hholds'
      obtain rfl : objects = objects' := holds_unique hholds hholds'
      exact hapart
    · exact fun hall => hall objects hholds

/-- A whole kind of objects keeps its id to itself if no object spells it. -/
theorem forall_whole_objects_iff (hkind : kind ∈ s.kinds)
    (hnobody : ∀ principal : PrincipalKind, kind ≠ principal.kind) :
    (∀ r ∈ s.resourcesOf kind, r.ref = .all kind → r = .whole now kind) ↔
      ∀ objects, h.Holds kind objects → ∀ o ∈ objects, ¬ o.SpellsWildcard kind := by
  obtain ⟨objects, listed, hholds, hfound, hof⟩ := lists_of_snapshot hs hnamed hkind hnobody
  rw [hfound, Resource.forall_whole_listed_iff hof (hnamed kind objects hholds)]
  constructor
  · intro hspares objects' hholds'
    obtain rfl : objects = objects' := holds_unique hholds hholds'
    exact hspares
  · exact fun hall => hall objects hholds

/-- A whole kind keeps its id to itself if no object spells it and, where it is a kind of
principals, no binding names it. -/
theorem forall_whole_resourcesOf_iff (hkind : kind ∈ s.kinds) :
    (∀ r ∈ s.resourcesOf kind, r.ref = .all kind → r = .whole now kind) ↔
      (∀ objects, h.Holds kind objects → ∀ o ∈ objects, ¬ o.SpellsWildcard kind) ∧
        ∀ principal : PrincipalKind, kind = principal.kind →
          ∀ bindings, h.bindings = .ok bindings → ∀ b ∈ bindings.allBindings,
            ¬ b.Names (.all kind) := by
  by_cases hprincipal : ∃ principal : PrincipalKind, kind = principal.kind
  case pos =>
    obtain ⟨principal, rfl⟩ := hprincipal
    have hspares : ∀ objects, h.Holds principal.kind objects →
        ∀ o ∈ objects, ¬ o.SpellsWildcard principal.kind := by
      intro objects hholds
      rw [eq_nil_of_holds_principal hholds]
      exact fun o ho => absurd ho List.not_mem_nil
    rw [forall_whole_principals_iff hs principal]
    exact ⟨fun hnobody => ⟨hspares, fun _ _ => hnobody⟩, fun hboth => hboth.2 principal rfl⟩
  case neg =>
    have hnobody : ∀ principal : PrincipalKind, kind ≠ principal.kind :=
      fun principal heq => hprincipal ⟨principal, heq⟩
    rw [forall_whole_objects_iff hs hnamed hkind hnobody]
    exact ⟨fun hspares => ⟨hspares, fun principal heq => absurd heq (hnobody principal)⟩, And.left⟩

/-- In a snapshot, ids are told apart if no object spells a whole kind and bare names are. -/
theorem nodup_ref_iff :
    (s.resources.map Resource.ref).Nodup ↔ h.SparesWildcard s.kinds ∧ h.NamesBare s.kinds := by
  have hkinds : (s.resources.map Resource.ref).Nodup ↔
      ∀ kind ∈ s.kinds, ((s.resourcesOf kind).map Resource.ref).Nodup := by
    rw [nodup_map_iff_forall_filter Resource.ref ResourceRef.kind]
    refine forall_congr' fun kind => ⟨fun hnodup _ => hnodup, fun hnodup => ?_⟩
    by_cases hkind : kind ∈ s.kinds
    case pos => exact hnodup hkind
    case neg =>
      have hnone : s.resources.filter (fun r => r.ref.kind = kind) = [] := by
        refine List.filter_eq_nil_iff.2 fun r hr hclass => hkind ?_
        obtain rfl : r.ref.kind = kind := of_decide_eq_true hclass
        exact kind_mem_of_mem_resources hs hr
      rw [hnone]
      exact List.nodup_nil
  rw [hkinds]
  constructor
  · intro hall
    refine ⟨fun kind hkind objects hholds => ?_, fun kind hkind objects hholds => ?_⟩
    · exact ((nodup_ref_resourcesOf_iff hs hnamed hkind).1 (hall kind hkind) objects hholds).1
    · exact ((nodup_ref_resourcesOf_iff hs hnamed hkind).1 (hall kind hkind) objects hholds).2
  · rintro ⟨hspares, hbare⟩ kind hkind
    refine (nodup_ref_resourcesOf_iff hs hnamed hkind).2 fun objects hholds => ?_
    exact ⟨hspares kind hkind objects hholds, hbare kind hkind objects hholds⟩

/-- In a snapshot, only whole kinds have their ids if no object spells one and no binding names
one. -/
theorem forall_whole_iff :
    (∀ r ∈ s.resources, r.ref = .all r.ref.kind → r = .whole now r.ref.kind) ↔
      h.SparesWildcard s.kinds ∧ h.SparesPrincipals := by
  have hkinds : (∀ r ∈ s.resources, r.ref = .all r.ref.kind → r = .whole now r.ref.kind) ↔
      ∀ kind ∈ s.kinds, ∀ r ∈ s.resourcesOf kind, r.ref = .all kind → r = .whole now kind := by
    constructor
    · intro hall kind _ r hr href
      obtain ⟨hmem, hkind⟩ := List.mem_filter.1 hr
      obtain rfl : r.ref.kind = kind := of_decide_eq_true hkind
      exact hall r hmem href
    · intro hall r hr href
      have hmem : r ∈ s.resourcesOf r.ref.kind :=
        List.mem_filter.2 ⟨hr, decide_eq_true rfl⟩
      exact hall r.ref.kind (kind_mem_of_mem_resources hs hr) r hmem href
  rw [hkinds]
  constructor
  · intro hall
    refine ⟨fun kind hkind => ?_, fun bindings hbindings b hb principal => ?_⟩
    · exact ((forall_whole_resourcesOf_iff hs hnamed hkind).1 (hall kind hkind)).1
    · have hkind : principal.kind ∈ s.kinds := by
        rw [kinds_of_snapshot hs]
        exact List.mem_map.2
          ⟨_, Auditor.principals_mem_freshCatalogs settings principal, rfl⟩
      have hboth := (forall_whole_resourcesOf_iff hs hnamed hkind).1 (hall _ hkind)
      exact hboth.2 principal rfl bindings hbindings b hb
  · rintro ⟨hspares, hnobody⟩ kind hkind
    refine (forall_whole_resourcesOf_iff hs hnamed hkind).2 ⟨hspares kind hkind, ?_⟩
    rintro principal rfl bindings hbindings b hb
    exact hnobody bindings hbindings b hb principal

end

end Holdings

/-! ## Contents -/

/-- The objects of a kind. -/
def Contents.objectsOf (c : Contents) (kind : ResourceKind) : List ClusterObject :=
  match kind with
  | .role => c.roles.map Role.object
  | .clusterRole => c.clusterRoles.map ClusterRole.object
  | kind =>
    match Inventory.ofKind? kind with
    | some i => c.objects i
    | none => []

/-- The objects of the contents are those that are held. -/
theorem Contents.holds_holdings (c : Contents) (kind : ResourceKind) :
    c.holdings.Holds kind (c.objectsOf kind) := by
  cases kind with
  | role => simp [Holdings.Holds, Holdings.objectsOf, objectsOf, holdings, Except.map]
  | clusterRole => simp [Holdings.Holds, Holdings.objectsOf, objectsOf, holdings, Except.map]
  | _ => rfl

theorem Contents.holds_iff {c : Contents} {kind : ResourceKind} {objects : List ClusterObject} :
    c.holdings.Holds kind objects ↔ objects = c.objectsOf kind := by
  constructor
  · intro hholds
    exact Holdings.holds_unique hholds (c.holds_holdings kind)
  · rintro rfl
    exact c.holds_holdings kind

theorem namedApart_nil (kind : ResourceKind) : NamedApart kind [] :=
  ⟨List.nodup_nil, nofun, fun _ => nofun⟩

namespace Auditor

/-- What ids tell, exactly. Where the objects of each kind can be told apart, a snapshot has a
resource for each of them, in order behind the one of the whole kind. All of its resources have ids
of their own if and only if no object spells the whole of its kind and the names in kinds outside of
namespaces are told apart; and the ids of whole kinds are theirs alone if and only if no object
spells one and no binding names one. -/
theorem resource_ids_identify {h : Holdings} {settings : Settings} {gateway : Gateway}
    {s : Snapshot} {after : Auditor} (hshows : gateway.server.Shows h settings.pageSize)
    (hnamed : ∀ kind objects, h.Holds kind objects → NamedApart kind objects)
    (hrun : snapshot (ofGateway settings gateway) = .ok s after) :
    (∀ kind ∈ s.kinds, kind ≠ .user → kind ≠ .group → ∃ objects listed,
      h.Holds kind objects ∧ s.resourcesOf kind = .whole gateway.now kind :: listed ∧
        List.Forall₂ (Resource.IsOf kind) objects listed) ∧
      ((s.resources.map Resource.ref).Nodup ↔
        h.SparesWildcard s.kinds ∧ h.NamesBare s.kinds) ∧
      ((∀ r ∈ s.resources, r.ref = .all r.ref.kind → r = .whole gateway.now r.ref.kind) ↔
        h.SparesWildcard s.kinds ∧ h.SparesPrincipals) := by
  have hs : h.snapshot gateway.now settings = .ok s := held_of_snapshot_ok hshows hrun
  refine ⟨fun kind hkind huser hgroup => ?_, Holdings.nodup_ref_iff hs hnamed,
    Holdings.forall_whole_iff hs hnamed⟩
  have hnobody : ∀ principal : PrincipalKind, kind ≠ principal.kind := by
    intro principal
    cases principal with
    | user => exact huser
    | group => exact hgroup
  exact Holdings.lists_of_snapshot hs hnamed hkind hnobody

theorem namedApart_yard (kind : ResourceKind) : NamedApart kind (yard.objectsOf kind) := by
  cases kind with
  | role =>
    refine ⟨by decide, by decide, fun _ o ho => ?_⟩
    obtain ⟨r, hr, rfl⟩ := List.mem_map.1 ho
    obtain ⟨ns, hns, hne, hslash, -⟩ := rolesNamed_yard.role r hr
    exact ⟨ns, hns, hne, hslash⟩
  | clusterRole => exact ⟨by decide, by decide, nofun⟩
  | _ => exact namedApart_nil _

/-- In the yard, two roles have one name, and every resource has an id of its own. -/
theorem resource_ids_identify_yard :
    yard.holdings.server.Shows yard.holdings 1 ∧
      (∀ kind objects, yard.holdings.Holds kind objects → NamedApart kind objects) ∧
      ∃ s after, snapshot (ofGateway { pageSize := 1 } yard.holdings.gateway) = .ok s after ∧
        (s.resourcesOf .role).map Resource.ref =
          [.all .role, ⟨.role, "dock/reader"⟩, ⟨.role, "shed/reader"⟩] ∧
        (s.resources.map Resource.ref).Nodup ∧
        ∀ r ∈ s.resources, r.ref = .all r.ref.kind → r = .whole "" r.ref.kind := by
  have hshows : yard.holdings.server.Shows yard.holdings 1 :=
    yard.holdings.shows_server (by decide)
  have hnamed : ∀ kind objects, yard.holdings.Holds kind objects → NamedApart kind objects := by
    intro kind objects hholds
    rw [Contents.holds_iff.1 hholds]
    exact namedApart_yard kind
  have hroles : ((yard.holdings.snapshot "" { pageSize := 1 }).toOption.any fun s =>
      decide ((s.resourcesOf .role).map Resource.ref =
        [.all .role, ⟨.role, "dock/reader"⟩, ⟨.role, "shed/reader"⟩])) = true := by
    decide +kernel
  obtain ⟨s, after, hrun, hlisted⟩ := exists_snapshot (by decide) hroles
  obtain ⟨-, hnodup, hwhole⟩ := resource_ids_identify hshows hnamed hrun
  have hspares : yard.holdings.SparesWildcard s.kinds := by
    intro kind _ objects hholds
    rw [Contents.holds_iff.1 hholds]
    cases kind <;> decide
  have hbare : yard.holdings.NamesBare s.kinds := by
    intro kind _ objects hholds
    rw [Contents.holds_iff.1 hholds]
    cases kind <;> decide
  have hnobody : yard.holdings.SparesPrincipals := by
    intro bindings hbindings b hb principal hprincipal
    obtain ⟨subject, hsubject, hresolve⟩ := hprincipal
    cases hbindings
    have hnames : ∀ b ∈ yard.allBindings, ∀ subject ∈ b.subjects, subject.name ≠ "*" := by decide
    exact hnames b hb subject hsubject (Subject.resolve_eq_ok_iff.1 hresolve).2.1
  exact ⟨hshows, hnamed, s, after, hrun, of_decide_eq_true hlisted, hnodup.2 ⟨hspares, hbare⟩,
    hwhole.2 ⟨hspares, hnobody⟩⟩

/-- A cluster with a role that is called like all of them, and a user who is called like all
users. -/
def starred : Contents where
  clusterRoles := [
    { object := { kind := "ClusterRole", name := "view" }, rules := [] },
    { object := { kind := "ClusterRole", name := "*" }, rules := [] }]
  clusterRoleBindings := [⟨"viewers", ⟨"ClusterRole", "view", ""⟩, [⟨"User", "*", "", ""⟩]⟩]

/-- There, two resources have one id, and the ids of whole kinds are shared and taken. -/
theorem not_resource_ids_identify_starred :
    (∀ kind objects, starred.holdings.Holds kind objects → NamedApart kind objects) ∧
      ∃ s after, snapshot (ofGateway { pageSize := 1 } starred.holdings.gateway) = .ok s after ∧
        ¬ (s.resources.map Resource.ref).Nodup ∧
        (∃ r ∈ s.resources, r.ref = .all .clusterRole ∧ r ≠ .whole "" .clusterRole) ∧
        ∃ r ∈ s.resources, r.ref = .all .user ∧ r ≠ .whole "" .user := by
  constructor
  · intro kind objects hholds
    rw [Contents.holds_iff.1 hholds]
    cases kind with
    | clusterRole => exact ⟨by decide, by decide, nofun⟩
    | _ => exact namedApart_nil _
  · have hids : ((starred.holdings.snapshot "" { pageSize := 1 }).toOption.any fun s =>
        !decide (s.resources.map Resource.ref).Nodup &&
          (s.resources.any fun r => r.ref = .all .clusterRole && r.displayName = "*") &&
            s.resources.any fun r => r.ref = .all .user && r.displayName = "*") = true := by
      decide +kernel
    obtain ⟨s, after, hrun, htests⟩ := exists_snapshot (by decide) hids
    have htitle : ∀ (kind : ResourceKind) (r : Resource), r.displayName = "*" →
        r ≠ .whole "" kind := by
      intro kind r hname heq
      rw [heq] at hname
      revert hname
      cases kind <;> decide
    simp only [Bool.and_eq_true, Bool.not_eq_true', decide_eq_false_iff_not, List.any_eq_true,
      decide_eq_true_eq] at htests
    obtain ⟨⟨hrepeats, role, hrole, href, hroleName⟩, user, huser, href', huserName⟩ := htests
    exact ⟨s, after, hrun, hrepeats, ⟨role, hrole, href, htitle _ _ hroleName⟩, user, huser, href',
      htitle _ _ huserName⟩

end Auditor
end ClusterAccess
