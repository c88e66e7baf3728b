/-
  ClusterAccess.Fault

  Everything that can go wrong, as causes. A cause that callers are meant to see
  has a report: a class with its code and status, a message, and the values
  behind it. The others are mistakes of the cluster or of the configuration that
  a caller can only be told about in general.
-/
import ClusterAccess.Defect
import ClusterAccess.Inventory
import ClusterAccess.Manifest.Basic
import ClusterAccess.PageToken
import ClusterAccess.Subject

namespace ClusterAccess

/-! ## Causes -/

/-- Why the connection to a cluster cannot be configured. -/
inductive ConfigFault
  /-- The configuration file does not exist. -/
  | missingFile (path : String)
  /-- The configuration cannot be used. -/
  | unusable (reason : String)
  deriving DecidableEq, Repr

/-- How a call to the cluster failed. -/
inductive CallFailure
  /-- The cluster answered with an error, as far as it is told. -/
  | api (status : Option Int) (reason : Option String)
  /-- No answer came. -/
  | transport (text : String)
  /-- The caller was cancelled while it waited. -/
  | cancelled
  deriving DecidableEq, Repr

/-- What a call was about: a list, or one object of it. -/
structure CallSubject where
  resource : String
  name : Option String := none
  ns : Option String := none
  deriving DecidableEq, Repr

/-- A failed call to the cluster. -/
structure CallFault where
  about : CallSubject
  /-- The status that the cluster answered with, if it answered. -/
  status : Option Int
  /-- The failure in words. -/
  reason : String
  /-- Whether the call was made to see if the cluster can be reached. -/
  probing : Bool := false
  deriving DecidableEq, Repr

/-- Why an action has no answer. -/
inductive Fault
  | configuration (fault : ConfigFault)
  | ref (fault : RefFault)
  | subject (fault : SubjectFault)
  | token (fault : TokenFault)
  /-- No catalogue serves a kind of this name. -/
  | noCatalog (kindName : String)
  | server (fault : CallFault)
  /-- The cluster or the configuration gave something that cannot be read. -/
  | malformed (fault : Malformed)
  /-- Something in the installation cannot be used. -/
  | defect (defect : Defect)
  /-- What stands here, as it is shown, is the name of no kind. -/
  | notKind (shown : String)
  /-- A kind that has no list of plain objects. -/
  | notInventory (kind : ResourceKind)
  /-- The caller was cancelled while it waited. -/
  | cancelled
  /-- A list went on for more pages than its server has. -/
  | endless
  deriving DecidableEq, Repr

/-- The kind of a name. -/
def ResourceKind.named (name : String) : Except Fault ResourceKind :=
  match ofId? name with
  | some kind => .ok kind
  | none => .error (.notKind (Text.quoted name))

/-- The plain objects of the kind of a name. -/
def Inventory.named (name : String) : Except Fault Inventory := do
  let kind ← ResourceKind.named name
  match ofKind? kind with
  | some i => .ok i
  | none => .error (.notInventory kind)

/-! ## Reports -/

/-- A class of errors that callers see. -/
inductive ErrorClass
  | application
  | configuration
  | unresolvableSubject
  | unsupportedSubjectKind
  | malformedId
  | invalidPageToken
  | unknownKind
  | server
  deriving DecidableEq, Repr

namespace ErrorClass

/-- The code of a class. -/
def code : ErrorClass → String
  | .application => "APP_ERROR"
  | .configuration => "CONFIG_ERROR"
  | .unresolvableSubject => "UNRESOLVABLE_SUBJECT"
  | .unsupportedSubjectKind => "UNSUPPORTED_SUBJECT_KIND"
  | .malformedId => "MALFORMED_RESOURCE_ID"
  | .invalidPageToken => "INVALID_PAGE_TOKEN"
  | .unknownKind => "UNKNOWN_RESOURCE_TYPE"
  | .server => "UPSTREAM_ERROR"

/-- The HTTP status of a class. -/
def status : ErrorClass → Int
  | .application => 400
  | .configuration => 500
  | .unresolvableSubject => 422
  | .unsupportedSubjectKind => 422
  | .malformedId => 400
  | .invalidPageToken => 400
  | .unknownKind => 404
  | .server => 502

end ErrorClass

/-- An error as callers see it. -/
structure Report where
  errorClass : ErrorClass
  message : String
  code : String := errorClass.code
  status : Int := errorClass.status
  details : List (String × Json) := []
  serverStatus : Option Int := none
  deriving Repr

namespace Report

/-- Tells the status that the cluster answered with, also among the details unless they have one. -/
def withServerStatus (status : Option Int) (r : Report) : Report :=
  match status with
  | none => r
  | some s => { r with
      serverStatus := some s
      details := match Json.fieldOf? "upstream_status" r.details with
        | some _ => r.details
        | none => r.details ++ [("upstream_status", .int s)] }

end Report

namespace ConfigFault

/-- What went wrong, in words. -/
def message : ConfigFault → String
  | .missingFile path => "Kubeconfig file not found: " ++ path
  | .unusable reason => "Unable to load Kubernetes configuration: " ++ reason

/-- The values behind the message. -/
def details : ConfigFault → List (String × Json)
  | .missingFile path => [("path", .text path)]
  | .unusable _ => []

end ConfigFault

namespace CallFault

/-- What a failed probe says first. -/
def probeMessage : Option Int → String
  | some 401 => "Unauthorized access to Kubernetes API"
  | some 403 => "Forbidden access to Kubernetes API (check RBAC permissions)"
  | _ => "Validating Kubernetes connection failed"

/-- What went wrong, in words. -/
def message (f : CallFault) : String :=
  let plain := "Kubernetes API request for " ++ f.about.resource ++ " failed: " ++ f.reason
  if f.probing then probeMessage f.status ++ ": " ++ plain else plain

/-- What the call was about. -/
def details (f : CallFault) : List (String × Json) :=
  ("resource", .text f.about.resource) ::
    (PageToken.optionalField "name" f.about.name ++ PageToken.optionalField "namespace" f.about.ns)

end CallFault

namespace Fault

/-- The fault of a failed call. -/
def ofFailure (about : CallSubject) : CallFailure → Fault
  | .api status reason => .server ⟨about, status, reason.getD "None", false⟩
  | .transport text => .server ⟨about, none, text, false⟩
  | .cancelled => .cancelled

/-- The class of a fault of a subject. -/
def subjectClass : SubjectFault → ErrorClass
  | .unsupported _ => .unsupportedSubjectKind
  | _ => .unresolvableSubject

/-- The report of a fault that callers are meant to see. -/
def report? : Fault → Option Report
  | .configuration f => some {
      errorClass := .configuration
      message := f.message
      details := f.details }
  | .ref f => some { errorClass := .malformedId, message := f.message, details := f.details }
  | .subject f => some {
      errorClass := subjectClass f
      message := f.message
      details := [("subject", f.subject.toJson)] }
  | .token (.tooDeep _) => none
  | .token f => some { errorClass := .invalidPageToken, message := f.message, details := f.details }
  | .noCatalog name => some {
      errorClass := .unknownKind
      message := "No syncer for resource type " ++ name
      details := [("resource_type", .text name)] }
  | .server f => some (Report.withServerStatus f.status
      { errorClass := .server, message := f.message, details := f.details })
  | _ => none

end Fault
end ClusterAccess
