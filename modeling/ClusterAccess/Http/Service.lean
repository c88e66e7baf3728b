/-
  ClusterAccess.Http.Service

  The service: one request in, one response out. A service whose auditor could
  not be set up says so to every question that needs one.
-/
import ClusterAccess.Http.Question

namespace ClusterAccess.Http

/-- A service with its auditor, or with the reason why it has none. -/
inductive Service
  | up (auditor : Auditor)
  | down (fault : Fault) (issued : Nat)

namespace Service

/-- An id as requests carry it: 32 digits in five groups. -/
def idText (n : Nat) : String :=
  let digits := Text.hex 32 n
  let group (start count : Nat) : String := String.ofList ((digits.drop start).take count)
  "-".intercalate [group 0 8, group 8 4, group 12 4, group 16 4, group 20 12]

/-- The id of a request: the caller's, or a new one. -/
def identify (s : Service) (r : Request) : String × Service :=
  match r.callerId?, s with
  | some id, s => (id, s)
  | none, .up a => (idText (a.issued + 1), .up { a with issued := a.issued + 1 })
  | none, .down fault issued => (idText (issued + 1), .down fault (issued + 1))

/-- Asks the auditor. It is needed before the parameters are looked at. -/
def ask (s : Service) (id : String) (r : Request) (topic : Topic) : Response × Service :=
  match s with
  | .down fault issued => (.ofFault id fault, .down fault issued)
  | .up a =>
    match Question.ofRequest r topic with
    | .invalid faults => (.ofParams id faults, .up a)
    | .valid question =>
      match question.answer a with
      | .ok data a => (.success id data, .up a)
      | .error fault a => (.ofFault id fault, .up a)

/-- The response of a path with a route. -/
def follow (s : Service) (id : String) (r : Request) (route : Route) : Response × Service :=
  if r.method ≠ "GET" then (.failure id 405 "HTTP_ERROR" "Method Not Allowed", s)
  else match route with
    | .health => (.success id (.object [("status", .text "healthy")]), s)
    | .topic topic => s.ask id r topic

/-- Serves a request. -/
def handle (s : Service) (r : Request) : Response × Service :=
  let (id, s) := s.identify r
  match Route.ofPath? r.path with
  | some route => s.follow id r route
  | none =>
    match Route.redirect? r.path with
    | some path => (.redirect id (Route.location r.host path r.query), s)
    | none => (.failure id 404 "HTTP_ERROR" "Not Found", s)

/-- Serves requests one after the other. -/
def handleAll (s : Service) : List Request → List Response
  | [] => []
  | r :: rs =>
    let (response, s) := s.handle r
    response :: handleAll s rs

end Service
end ClusterAccess.Http
