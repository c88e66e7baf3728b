/-
  ClusterAccess.Cluster

  A cluster held in memory, as a server. Its lists are documents: a list of raw
  objects, cut into pages by the limit of each call; or pages given one by one,
  with a place that the last of them may point on to; or `null`, which answers
  with nothing at all. A place in a list is a number of at most nine digits;
  anything else has expired.
-/
import ClusterAccess.Server

namespace ClusterAccess

/-- Raw objects as a server holds them. -/
inductive Collection
  /-- Answers with no items and no continuation. -/
  | absent
  /-- A list that is cut into pages on the way out. -/
  | whole (items : List Json)
  /-- Pages, one by one, and the place that the last one points on to. -/
  | paged (pages : List (List Json)) (last : Option String)
  deriving Repr, Inhabited

namespace Collection

/-- The raw objects of a page; a missing page has none. -/
def pageItems : Json → List Json
  | .array items => items
  | _ => []

/-- A collection from its document. -/
def ofJson : Json → Collection
  | .null => .absent
  | .array items => .whole items
  | j => .paged ((pageItems (j.field "pages")).map pageItems) (j.field "last_continue").text?

/-- The number that a place stands for. -/
def place? (resume : String) : Option Nat :=
  let cs := resume.toList
  if cs.length ≤ 9 ∧ cs ≠ [] ∧ cs.all (fun c => '0' ≤ c ∧ c ≤ '9') then
    some (cs.foldl (fun n c => n * 10 + (c.toNat - 48)) 0)
  else none

/-- The items from a place up to another one. A negative place is counted from the end. -/
def slice {α : Type} (items : List α) (start : Nat) (stop : Int) : List α :=
  let stop := if stop < 0 then stop + items.length else stop
  (items.take stop.toNat).drop start

/-- The part of a collection that a call asks for. -/
def page (c : Collection) (call : ListCall) : Except CallFailure (Page Json) :=
  match c with
  | .absent => .ok {}
  | .whole items => do
    let start ← start call.resume
    let stop : Int := start + call.limit
    pure {
      items := slice items start stop
      next := if stop < items.length then some (toString stop) else none }
  | .paged ps last => do
    let start ← start call.resume
    pure {
      items := (ps[start]?).getD []
      next := if start + 1 < ps.length then some (toString (start + 1)) else last }
where
  /-- The place where a call begins. -/
  start : Option String → Except CallFailure Nat
    | none => .ok 0
    | some resume =>
      match place? resume with
      | some n => .ok n
      | none => .error (.api (some 410) (some "Expired"))

/-- Every raw object of a collection. -/
def all : Collection → List Json
  | .absent => []
  | .whole items => items
  | .paged ps _ => ps.flatten

/-- A bound on the number of pages. -/
def pageBound : Collection → Nat
  | .absent => 1
  | .whole items => items.length + 1
  | .paged ps _ => ps.length + 2

end Collection

/-- The collections of a cluster by the names of the calls that list them. -/
abbrev Cluster := List (String × Collection)

namespace Cluster

/-- A cluster from its document. -/
def ofJson : Json → Cluster
  | .object fields => fields.map fun f => (f.1, Collection.ofJson f.2)
  | _ => []

/-- The collection with a name; one that is not there is empty. -/
def collection (c : Cluster) (name : String) : Collection :=
  match c.find? fun entry => entry.1 = name with
  | some entry => entry.2
  | none => .whole []

/-- Replaces a collection. -/
def set (c : Cluster) (name : String) (value : Collection) : Cluster :=
  (name, value) :: c.filter fun entry => entry.1 ≠ name

/-- A field of an object's metadata is this text. -/
def hasMetadata (field value : String) (j : Json) : Bool :=
  ((j.field "metadata").field field).text? == some value

/-- Sends raw objects. An object with a text that should be a moment and is none cannot be sent, and
what was to be sent with it does not arrive either. -/
def send (objects : List Json) : Except CallFailure Unit :=
  match objects.findSome? Manifest.misdated? with
  | some fault => .error (.transport fault.message)
  | none => .ok ()

/-- A page of raw objects. -/
def rawPage (c : Cluster) (list : ListName) (call : ListCall) :
    Except CallFailure (Page Json) := do
  let page ← (c.collection list.callName).page call
  send page.items
  pure page

/-- The answer to a list call, with the objects read. -/
def answer {α : Type} (c : Cluster) (read : Json → Manifest.Reading α) (list : ListName)
    (call : ListCall) : Answer α :=
  (c.rawPage list call).map fun page => ⟨page.items.map read, page.next⟩

/-- The answer to a call for the first object that has some metadata. -/
def find {α : Type} (c : Cluster) (read : Json → Manifest.Reading α) (list : ListName)
    (wanted : Json → Bool) : ObjectAnswer α :=
  match (c.collection list.callName).all.find? wanted with
  | some j => (send [j]).map fun _ => read j
  | none => .error (.api (some 404) (some "Not Found"))

/-- A cluster as a server. -/
def server (c : Cluster) : Server where
  roles := c.answer Role.read .roles
  clusterRoles := c.answer ClusterRole.read .clusterRoles
  roleBindings := c.answer RoleBinding.read .roleBindings
  clusterRoleBindings := c.answer ClusterRoleBinding.read .clusterRoleBindings
  objects i := c.answer i.read (.objects i)
  role ns name := c.find Role.read .roles fun j =>
    hasMetadata "name" name j && hasMetadata "namespace" ns j
  clusterRole name := c.find ClusterRole.read .clusterRoles (hasMetadata "name" name)
  pageLimit := (c.map fun entry => entry.2.pageBound).foldl max 1

end Cluster
end ClusterAccess
