/-
  ClusterAccess.Subject

  Subjects of bindings and the principals they name. Users and groups are named
  verbatim; a service account needs a namespace, its own or that of its binding.
-/
import ClusterAccess.ResourceRef

namespace ClusterAccess

/-- The kinds of subjects that name principals. -/
inductive SubjectKind
  | user
  | group
  | serviceAccount
  deriving DecidableEq, Repr

namespace SubjectKind

/-- The word that a subject writes for its kind. -/
def name : SubjectKind → String
  | .user => "User"
  | .group => "Group"
  | .serviceAccount => "ServiceAccount"

/-- The kind with a word; any other spelling names none. -/
def ofName? : String → Option SubjectKind
  | "User" => some .user
  | "Group" => some .group
  | "ServiceAccount" => some .serviceAccount
  | _ => none

end SubjectKind

/-- A reference to a principal inside a binding. -/
structure Subject where
  kind : String
  name : String
  ns : String := ""
  apiGroup : String := ""
  deriving DecidableEq, Repr, Inhabited

/-- Why a subject names no principal. -/
inductive SubjectFault
  /-- The kind is none of the three. -/
  | unsupported (subject : Subject)
  /-- A service account without a namespace or without a name. -/
  | homeless (subject : Subject)
  /-- A user or group without a name. -/
  | nameless (kind : SubjectKind) (subject : Subject)
  deriving DecidableEq, Repr

namespace Subject

/-- The kind of a subject, if it is one of the three. -/
def subjectKind (s : Subject) : Option SubjectKind :=
  SubjectKind.ofName? s.kind

/-- A subject as a document. -/
def toJson (s : Subject) : Json := .object [
  ("kind", .text s.kind),
  ("name", .text s.name),
  ("namespace", .text s.ns),
  ("api_group", .text s.apiGroup)]

/-- The namespace of a service account: its own, else that of the binding. -/
def homeIn (bindingNs : String) (s : Subject) : String :=
  if s.ns = "" then bindingNs else s.ns

/-- The principal that a subject of a binding in `bindingNs` names. -/
def resolve (bindingNs : String) (s : Subject) : Except SubjectFault ResourceRef :=
  match s.subjectKind with
  | some .serviceAccount =>
    if s.homeIn bindingNs = "" ∨ s.name = "" then .error (.homeless s)
    else .ok ⟨.serviceAccount, s.homeIn bindingNs ++ "/" ++ s.name⟩
  | some .user => if s.name = "" then .error (.nameless .user s) else .ok ⟨.user, s.name⟩
  | some .group => if s.name = "" then .error (.nameless .group s) else .ok ⟨.group, s.name⟩
  | none => .error (.unsupported s)

end Subject

namespace SubjectFault

/-- The subject at fault. -/
def subject : SubjectFault → Subject
  | .unsupported s => s
  | .homeless s => s
  | .nameless _ s => s

/-- What went wrong, in words. -/
def message : SubjectFault → String
  | .unsupported s => "Unsupported subject kind: " ++ s.kind
  | .homeless s => "Service account subject " ++ Text.quoted s.name ++ " has no namespace"
  | .nameless kind _ => kind.name ++ " subject has an empty name"

end SubjectFault
end ClusterAccess
