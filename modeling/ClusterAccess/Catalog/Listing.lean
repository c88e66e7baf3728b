/-
  ClusterAccess.Catalog.Listing

  Listings that walk one list of the cluster. The first page begins with the
  resource that stands for the whole kind; an object without the names that its
  kind needs is left out and disturbs nothing else.
-/
import ClusterAccess.Gateway
import ClusterAccess.Resource

namespace ClusterAccess.Catalog

/-- The resources of a page of objects; the first page has the whole kind in front. -/
def resourcesOf {α : Type} (now : String) (kind : ResourceKind)
    (toResource : α → Except RefFault Resource) (isFirst : Bool) (objects : List α) :
    List Resource :=
  (if isFirst then [Resource.whole now kind] else []) ++
    objects.filterMap fun o => (toResource o).toOption

/-- One page of a listing that walks one list. -/
def listPaged {α : Type} (kind : ResourceKind) (fetch : Option String → Fetch (Page α))
    (toResource : α → Except RefFault Resource) (token : PageToken) : Fetch (Page Resource) := do
  let page ← fetch token.resume
  let g ← get
  pure ⟨resourcesOf g.now kind toResource token.isFirstPage page.items, PageToken.next page.next⟩

/-- One page of plain objects. -/
def listInventory (i : Inventory) : PageToken → Fetch (Page Resource) :=
  listPaged i.kind (fun resume => Gateway.objects i resume none) (Resource.ofInventory i)

/-- One page of the roles of namespaces. -/
def listRoles : PageToken → Fetch (Page Resource) :=
  listPaged .role Gateway.roles Resource.ofRole

/-- One page of the roles of the cluster. -/
def listClusterRoles : PageToken → Fetch (Page Resource) :=
  listPaged .clusterRole Gateway.clusterRoles Resource.ofClusterRole

end ClusterAccess.Catalog
