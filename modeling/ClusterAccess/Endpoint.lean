/-
  ClusterAccess.Endpoint

  How settings lead to a cluster: by a token for a named server, by a
  configuration document given in full, by the account of the machine itself, or
  by a configuration file. The first of these that the settings name counts.
-/
import ClusterAccess.Endpoint.File
import ClusterAccess.Gateway
import ClusterAccess.Settings
import ClusterAccess.Yaml.Reader

namespace ClusterAccess

/-- A configured connection: the name that the cluster goes by, and where it is. A document may
hold any value as the name of a context. -/
structure Configured where
  displayName : Json
  endpoint : Endpoint
  deriving Repr

namespace Settings

/-- The name that the cluster goes by: that of the context, if one is named. -/
def displayNameOr (s : Settings) (other : String) : Json :=
  .text ((given s.kubeContext).getD other)

/-! ## Ways to a cluster -/

/-- The document of a server that is called with a token. -/
def tokenDocument (s : Settings) (token : String) : ConfigDocument :=
  let authority := match given s.caData with
    | some data => [("certificate-authority-data", Json.text data)]
    | none => []
  let cluster := Json.object (("server", .ofText? s.apiServer) :: authority ++
    [("insecure-skip-tls-verify", .bool s.skipTlsVerify)])
  let entry (key : String) (value : Json) : Json :=
    .array [.object [("name", .text "token"), (key, value)]]
  { root := ⟨"kube-config", .object [
      ("clusters", entry "cluster" cluster),
      ("contexts", entry "context" (.object [("cluster", .text "token"), ("user", .text "token")])),
      ("users", entry "user" (.object [("token", .text token)]))]⟩ }

/-- The connection of a server that is called with a token. -/
def tokenConfigured (s : Settings) (m : Machine) (token : String) : Usable Configured := do
  let endpoint ← (s.tokenDocument token).endpoint m (some (.text "token"))
  return ⟨s.displayNameOr "token", endpoint⟩

/-- The value that a text holds. A text in a notation that is not read here is a value itself. -/
def valueOf (source : Yaml.Source) (text : String) : Usable Json :=
  match Yaml.read text with
  | .ok value => .ok value
  | .error .foreign => .ok (.text text)
  | .error (.tooLong digits) => Usable.defective (.longNumber digits)
  | .error refusal => Usable.unusable (refusal.message source)

/-- The configured connection of a document given in full. -/
def inlineConfigured (s : Settings) (m : Machine) (data : String) : Usable Configured := do
  let root ← valueOf .given data
  if root.fields?.isNone then
    Usable.unusable "kubeconfig_data is not a kubeconfig mapping"
  let current := match root.field "current-context" with
    | .null => none
    | name => some name
  let context := ((given s.kubeContext).map Json.text).or current
  let document : ConfigDocument := { root := ⟨"kube-config", root⟩ }
  let endpoint ← document.endpoint m context
  return ⟨(context.getD .null).orElse (.text "default"), endpoint⟩

/-- Why the account of the machine itself cannot be used. Its token is on no machine that is known
here. -/
def accountFault (m : Machine) : String :=
  match m.lookUp? "KUBERNETES_SERVICE_HOST", m.lookUp? "KUBERNETES_SERVICE_PORT" with
  | some host, some port =>
    if host = "" ∨ port = "" then "Service host/port is set but empty."
    else "Service token file does not exist."
  | _, _ => "Service host/port is not set."

/-- The configured connection of a configuration file. -/
def fileConfigured (s : Settings) (m : Machine) : Usable Configured := do
  match given s.kubeConfigPath with
  | none => Usable.invalid "No configuration found."
  | some path =>
    let path := m.expand path
    match m.read path with
    | .error defect => Usable.defective defect
    | .ok content =>
      let document ← ConfigDocument.ofFile path (← valueOf (.file path) content)
      let endpoint ← document.endpoint m (s.kubeContext.map .text)
      return ⟨s.displayNameOr "default", endpoint⟩

/-- The configured connection. -/
def configured (s : Settings) (m : Machine) : Usable Configured :=
  match given s.token, given s.kubeConfigData, given s.serviceAccountTokenPath with
  | some token, _, _ => s.tokenConfigured m token
  | none, some data, _ => s.inlineConfigured m data
  | none, none, some _ => Usable.unusable (accountFault m)
  | none, none, none => s.fileConfigured m

/-! ## The connection before its first call -/

/-- The connection that settings describe, to be configured on the first call. A configuration
file that is named has to be there at once. -/
def connection (s : Settings) (m : Machine) : Usable Connection :=
  let unconfigured : Connection := {
    displayName := s.displayNameOr "default"
    pending := some (Configured.displayName <$> s.configured m) }
  match given s.kubeConfigPath with
  | none => .ok unconfigured
  | some path =>
    if m.isThere (m.expand path) then .ok unconfigured
    else .error (.configuration (.missingFile path))

end Settings
end ClusterAccess
