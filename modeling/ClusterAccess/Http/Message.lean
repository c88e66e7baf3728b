/-
  ClusterAccess.Http.Message

  Requests and responses. Every response carries the id of its request, and
  every document in a response stands in an envelope: data under success, or a
  message and a code under failure.
-/
import ClusterAccess.Fault

namespace ClusterAccess.Http

/-- A request. Its path is decoded. -/
structure Request where
  /-- The host that the caller has asked. -/
  host : String := "localhost"
  method : String := "GET"
  path : String
  query : List (String × String) := []
  headers : List (String × String) := []
  deriving Repr

namespace Request

/-- A parameter; of several the last counts. -/
def param? (r : Request) (name : String) : Option String :=
  (r.query.reverse.find? fun p => p.1 = name).map (·.2)

/-- A header, of which case does not matter in the name; of several the first counts. -/
def header? (r : Request) (name : String) : Option String :=
  (r.headers.find? fun h => h.1.toLower = name.toLower).map (·.2)

/-- The id that the caller has given the request. -/
def callerId? (r : Request) : Option String :=
  (r.header? "X-Request-ID").filter (· ≠ "")

/-- A pair of texts, as parameters are given. -/
def pairOf? : Json → Option (String × String)
  | .array [.text name, .text value] => some (name, value)
  | _ => none

/-- A field that holds texts by name. -/
def textsByName : Json → List (String × String)
  | .object fields => fields.filterMap fun f => f.2.text?.map fun value => (f.1, value)
  | _ => []

/-- A request from a document. -/
def ofJson (j : Json) : Request where
  host := (j.field "host").text?.getD "localhost"
  method := (j.field "method").text?.getD "GET"
  path := (j.field "path").text?.getD ""
  query := match j.field "query" with
    | .array pairs => pairs.filterMap pairOf?
    | _ => []
  headers := textsByName (j.field "headers")

end Request

/-- What a response holds. -/
inductive Body
  | document (j : Json)
  | text (s : String)
  deriving Repr

/-- A response. -/
structure Response where
  status : Int
  requestId : String
  body : Body
  location : Option String := none
  deriving Repr

namespace Response

/-- A response with data. -/
def success (requestId : String) (data : Json) : Response where
  status := 200
  requestId
  body := .document (.object [
    ("success", .bool true),
    ("data", data),
    ("request_id", .text requestId)])

/-- A response with an error. Details are left out if there are none. -/
def failure (requestId : String) (status : Int) (code message : String)
    (details : List (String × Json) := []) : Response where
  status
  requestId
  body := .document (.object [
    ("success", .bool false),
    ("error", .object ([("message", .text message), ("code", .text code)] ++
      if details.isEmpty then [] else [("details", .object details)])),
    ("request_id", .text requestId),
    ("status_code", .int status)])

/-- The response to a fault. What callers are not meant to see is not told. -/
def ofFault (requestId : String) (fault : Fault) : Response :=
  match fault.report? with
  | some r => failure requestId r.status r.code r.message r.details
  | none => failure requestId 500 "INTERNAL_SERVER_ERROR" "Internal server error"

/-- What callers are told about a parameter. -/
def paramMessage : FieldProblem → String
  | .missing => "Field required"
  | .unreadableBoolean => "Input should be a valid boolean, unable to interpret input"
  | p => p.code

/-- The response to parameters that cannot be used. -/
def ofParams (requestId : String) (faults : List FieldFault) : Response :=
  failure requestId 422 "VALIDATION_ERROR" "Request validation failed" [
    ("errors", .array (faults.map fun f => .object [
      ("loc", .ofTexts f.path),
      ("msg", .text (paramMessage f.problem))]))]

/-- The response that sends the caller elsewhere. -/
def redirect (requestId location : String) : Response where
  status := 307
  requestId
  body := .text ""
  location := some location

/-- A response as a document. -/
def toJson (r : Response) : Json :=
  .object ([
    ("status", .int r.status),
    ("request_id", .text r.requestId),
    ("body", match r.body with
      | .document j => j
      | .text s => .text s)] ++
    match r.location with
    | some location => [("location", .text location)]
    | none => [])

end Response
end ClusterAccess.Http
