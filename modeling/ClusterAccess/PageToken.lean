/-
  ClusterAccess.PageToken

  The opaque tokens that callers hand back for the next page. A token is a small
  document in URL-safe base64. The empty text is the token of the first page;
  every written token is a different, non-empty text of ASCII characters.
-/
import ClusterAccess.FieldFault
import ClusterAccess.Json.Reader
import ClusterAccess.Json.Writer
import ClusterAccess.ResourceKind
import ClusterAccess.Text.Base64

namespace ClusterAccess

/-- Which bindings a listing of principals is going through. -/
inductive BindingPhase
  | roleBindings
  | clusterRoleBindings
  deriving DecidableEq, Repr

namespace BindingPhase

/-- The name of a phase. -/
def name : BindingPhase → String
  | .roleBindings => "rolebindings"
  | .clusterRoleBindings => "clusterrolebindings"

/-- The phase with a name. -/
def ofName? : String → Option BindingPhase
  | "rolebindings" => some .roleBindings
  | "clusterrolebindings" => some .clusterRoleBindings
  | _ => none

end BindingPhase

/-- Where a listing goes on: in which phase, from which place of the list, and which listing it
is. -/
structure PageToken where
  phase : Option BindingPhase := none
  resume : Option String := none
  listing : Option String := none
  deriving DecidableEq, Repr, Inhabited

/-- Why a token is refused. -/
inductive TokenFault
  /-- The text is no token. -/
  | unreadable (token : String)
  /-- The document of the token nests too deep to be read. Callers are not told so. -/
  | tooDeep (inside : Json.Container)
  /-- The token names a listing that is not open for this kind. -/
  | notOpen (kind : ResourceKind)
  deriving DecidableEq, Repr

namespace TokenFault

/-- What went wrong, in words. -/
def message : TokenFault → String
  | .unreadable _ => "Invalid page token"
  | .tooDeep inside => (Json.Refusal.tooDeep inside).message
  | .notOpen _ => "Page token does not belong to an active listing"

/-- The values behind the message. -/
def details : TokenFault → List (String × Json)
  | .unreadable token => [("token", .text token)]
  | .tooDeep _ => []
  | .notOpen kind => [("resource_type", .text kind.id)]

end TokenFault

namespace PageToken

/-- Whether a token is of the first page of a listing. -/
def isFirstPage (t : PageToken) : Bool :=
  t.resume.isNone && t.phase != some .clusterRoleBindings

/-! ## Writing -/

/-- A field that is left out without a value. -/
def optionalField (key : String) : Option String → List (String × Json)
  | some value => [(key, .text value)]
  | none => []

/-- The document that a token holds. -/
def toJson (t : PageToken) : Json :=
  .object (optionalField "phase" (t.phase.map BindingPhase.name) ++
    optionalField "token" t.resume ++ optionalField "listing" t.listing)

/-- The text of a token. -/
def encode (t : PageToken) : String :=
  String.ofList (Text.Base64.encode .urlSafe (Text.utf8 t.toJson.compactChars))

/-- The token of the page that follows a page of a single list, if one follows. -/
def next (resume : Option String) : Option String :=
  match resume with
  | none => none
  | some place => if place = "" then none else some (encode { resume := some place })

/-! ## Reading -/

/-- A field that holds a text or nothing. -/
def readText (key : String) (j : Json) : Validated (Option String) :=
  match j.field key with
  | .null => .valid none
  | value =>
    match value.looseText? with
    | some s => .valid (some s)
    | none => .fault [key] .notText

/-- The phase, if one is named. -/
def readPhase (j : Json) : Validated (Option BindingPhase) :=
  match j.field "phase" with
  | .null => .valid none
  | .text s =>
    match BindingPhase.ofName? s with
    | some phase => .valid (some phase)
    | none => .fault ["phase"] .notMember
  | _ => .fault ["phase"] .notMember

/-- The token that a document is; other fields are ignored. -/
def ofJson (j : Json) : Validated PageToken :=
  match j with
  | .object _ | .brokenObject _ =>
    PageToken.mk <$> readPhase j <*> readText "token" j <*> readText "listing" j
  | _ => .fault [] .notRecord

/-- The symbols of the document that a text holds, if it is base64 of a text. -/
def symbols? (token : String) : Option (List Text.Symbol) :=
  if token.toList.all fun c => c.toNat < 128 then
    (Text.Base64.decode? token.toList).bind Text.decode?
  else none

/-- Reads a token; the empty text is the token of the first page. -/
def decode (token : String) : Except TokenFault PageToken :=
  if token = "" then .ok {}
  else match (symbols? token).map Json.read with
    | some (.ok j) =>
      match ofJson j with
      | .valid t => .ok t
      | .invalid _ => .error (.unreadable token)
    | some (.error (.tooDeep inside)) => .error (.tooDeep inside)
    | _ => .error (.unreadable token)

end PageToken
end ClusterAccess
