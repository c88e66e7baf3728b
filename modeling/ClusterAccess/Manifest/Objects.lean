/-
  ClusterAccess.Manifest.Objects

  Reading plain objects and roles. An object's own fields are read before the
  rules of a role, and a secret gives its type and never its contents.
-/
import ClusterAccess.Inventory
import ClusterAccess.Manifest.Access

namespace ClusterAccess

open Manifest

/-- A number that stands for a moment. -/
def Manifest.numbered (path : List String) : Option Timestamp → Validated (Option Timestamp)
  | some t => .valid (some t)
  | none => .fault path .unreadableMoment

/-- A moment, if one is given. A text that is none is told before any field is looked at; an integer
that is too large for a binary number is none of the values that a moment is read from. -/
def Manifest.moment (name : String) (j : Json) : Reading (Validated (Option Timestamp)) :=
  match j with
  | .null => .ok (.valid none)
  | .int i =>
    .ok (if Number.isBeyond i then .fault [name] .notMoment
      else numbered [name] (Timestamp.ofNumber? i))
  | .real d => .ok (numbered [name] (Timestamp.ofReal? d))
  | j =>
    match j.symbols? with
    | none => .ok (.fault [name] .notMoment)
    | some symbols => (momentOf symbols).mapError .misdated |>.map fun t => .valid (some t)

/-- Reads what every object says about itself. Its name and namespace may be any empty value. -/
def ClusterObject.read (kind : String) (attributes : List (String × Json)) (j : Json) :
    Reading ClusterObject := do
  let metadata := j.field "metadata"
  let createdAt ← moment "created_at" (metadata.field "creation_timestamp")
  let labels ← Manifest.textMap (metadata.field "labels")
  let annotations ← Manifest.textMap (metadata.field "annotations")
  finish ((ClusterObject.mk kind · · · labels annotations · attributes) <$>
    textOrEmpty "name" metadata <*>
    text? ["namespace"] ((metadata.field "namespace").orElse .null) <*>
    text? ["uid"] (metadata.field "uid") <*> createdAt)

/-- The names of references that have one. -/
def Manifest.namesOf (references : Json) : Reading Json := do
  let items ← elements references
  pure (.array ((items.map (·.field "name")).filter fun name => !name.isEmpty))

/-- A list of references under a key, if any are given. -/
def Manifest.references (key : String) (value : Json) : Reading (List (String × Json)) :=
  if value.isEmpty then .ok [] else (fun names => [(key, names)]) <$> namesOf value

/-- What only objects of a kind say. -/
def Inventory.attributes (i : Inventory) (j : Json) : Reading (List (String × Json)) :=
  match i with
  | .nameSpace =>
    let phase := (j.field "status").field "phase"
    .ok (if phase.isEmpty then [] else [("status.phase", phase)])
  | .secret => .ok [("type", (j.field "type").orElse (.text ""))]
  | .serviceAccount => do
    let secrets ← references "secrets" (j.field "secrets")
    let imageSecrets ← references "imagePullSecrets" (j.field "image_pull_secrets")
    pure (secrets ++ imageSecrets)
  | .pod =>
    .ok [
      ("phase", (j.field "status").field "phase"),
      ("node_name", (j.field "spec").field "node_name")]
  | .deployment => .ok [("replicas", (j.field "spec").field "replicas")]
  | .statefulSet => .ok [("replicas", (j.field "spec").field "replicas")]
  | _ => .ok []

/-- Reads a plain object of a kind. -/
def Inventory.read (i : Inventory) (j : Json) : Reading ClusterObject := do
  ClusterObject.read i.word (← i.attributes j) j

/-- Reads the rules of a role. -/
def Manifest.rules (j : Json) : Reading (List PolicyRule) := do
  (← elements (j.field "rules")).mapM PolicyRule.read

/-- Reads a role of a namespace. -/
def Role.read (j : Json) : Reading Role := do
  let object ← ClusterObject.read "Role" [] j
  pure ⟨object, ← Manifest.rules j⟩

/-- An aggregation rule: an object, or nothing. A model stands for the value it holds. -/
def Manifest.aggregation (j : Json) : Validated (Option (List (String × Json))) :=
  match (j.field? "to_dict").getD j with
  | .object fields => .valid (if fields.isEmpty then none else some fields)
  | value => if value.isEmpty then .valid none else .fault ["aggregation_rule"] .notMapping

/-- Reads a role of the cluster. A namespace must be readable, and is dropped. -/
def ClusterRole.read (j : Json) : Reading ClusterRole := do
  let object ← ClusterObject.read "ClusterRole" [] j
  let rules ← Manifest.rules j
  finish (ClusterRole.mk { object with ns := none } rules <$>
    Manifest.aggregation (j.field "aggregation_rule"))

end ClusterAccess
