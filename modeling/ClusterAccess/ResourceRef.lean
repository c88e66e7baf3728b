/-
  ClusterAccess.ResourceRef

  References to resources. The object part is `namespace/name` for objects in a
  namespace, the bare name for others, and `*` for the whole kind. Names are kept
  as they are, so a colon or a slash may stand in them; written with its kind in
  front, a reference is cut at its first colon.
-/
import ClusterAccess.ResourceKind
import ClusterAccess.Text.Split

namespace ClusterAccess

/-- A kind and an object of it. -/
structure ResourceRef where
  kind : ResourceKind
  object : String
  deriving DecidableEq, Repr, Inhabited

/-- The object part that stands for the whole kind. -/
def wildcard : String := "*"

/-- Why a text or a pair of names gives no reference. -/
inductive RefFault
  /-- The object part is empty. -/
  | empty (kind : ResourceKind)
  /-- A namespace or a name is missing. -/
  | incomplete (kind : ResourceKind) (ns name : String)
  /-- The text is not a namespace and a name with one slash between them. -/
  | notNamespaced (text : String)
  /-- The text does not begin with the name of a kind and a colon. -/
  | notTyped (text : String)
  deriving DecidableEq, Repr

namespace RefFault

/-- What went wrong, in words. -/
def message : RefFault → String
  | .empty kind => "Empty object id for resource type " ++ kind.id
  | .incomplete kind _ _ => "Namespaced " ++ kind.id ++ " id needs both namespace and name"
  | .notNamespaced text => "Invalid resource id " ++ Text.quoted text ++ ", expected namespace/name"
  | .notTyped text => "Invalid typed id " ++ Text.quoted text ++ ", expected <type>:<id>"

/-- The values behind the message. -/
def details : RefFault → List (String × Json)
  | .empty kind => [("resource_type", .text kind.id)]
  | .incomplete _ ns name => [("namespace", .text ns), ("name", .text name)]
  | .notNamespaced text => [("resource", .text text)]
  | .notTyped text => [("id", .text text)]

end RefFault

namespace ResourceRef

/-- Whether a reference stands for its whole kind. -/
def isWildcard (ref : ResourceRef) : Bool :=
  ref.object == wildcard

/-- The reference to a whole kind. -/
def all (kind : ResourceKind) : ResourceRef :=
  ⟨kind, wildcard⟩

/-- A reference with its kind in front. -/
def text (ref : ResourceRef) : String :=
  ref.kind.id ++ ":" ++ ref.object

/-- A reference as a document. -/
def toJson (ref : ResourceRef) : Json := .object [
  ("resource_type", .text ref.kind.id),
  ("resource", .text ref.object)]

/-! ## Making references -/

/-- The reference to an object by its object part, which may not be empty. -/
def make (kind : ResourceKind) (object : String) : Except RefFault ResourceRef :=
  if object = "" then .error (.empty kind) else .ok ⟨kind, object⟩

/-- The reference to an object in a namespace. Both parts `*` give the whole kind. -/
def makeNamespaced (kind : ResourceKind) (ns name : String) : Except RefFault ResourceRef :=
  if ns = wildcard ∧ name = wildcard then .ok (all kind)
  else if ns = "" ∨ name = "" then .error (.incomplete kind ns name)
  else .ok ⟨kind, ns ++ "/" ++ name⟩

/-- The reference to a namespace. -/
def ofNamespace (ns : String) : Except RefFault ResourceRef :=
  make .nameSpace ns

/-! ## Taking references apart -/

/-- The namespace and the name in an object part. -/
def splitNamespaced (object : String) : Except RefFault (String × String) :=
  match Text.parts '/' object.toList with
  | [ns, name] =>
    if ns = [] ∨ name = [] then .error (.notNamespaced object)
    else .ok (String.ofList ns, String.ofList name)
  | _ => .error (.notNamespaced object)

/-- Reads a reference with its kind in front. -/
def ofText (text : String) : Except RefFault ResourceRef :=
  match Text.cut ':' text.toList with
  | (kindName, some object) =>
    match ResourceKind.ofId? (String.ofList kindName) with
    | some kind => make kind (String.ofList object)
    | none => .error (.notTyped text)
  | (_, none) => .error (.notTyped text)

/-- The part of an object before its first slash: the namespace, if it has one. -/
def nsPart (ref : ResourceRef) : String :=
  String.ofList (Text.cut '/' ref.object.toList).1

/-- The part of an object behind its first slash, empty without a slash. -/
def namePart (ref : ResourceRef) : String :=
  String.ofList ((Text.cut '/' ref.object.toList).2.getD [])

/-- Whether the object part is a bare name. -/
def isBare (ref : ResourceRef) : Bool :=
  !ref.object.toList.contains '/'

/-- What stands behind the last slash of an object part: the name to show. -/
def shortName (object : String) : String :=
  String.ofList (Text.afterLast '/' object.toList)

end ResourceRef
end ClusterAccess
