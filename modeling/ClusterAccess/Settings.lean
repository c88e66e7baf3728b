/-
  ClusterAccess.Settings

  The configuration. A value is given, under its name in any case, by argument
  or by the environment; an argument counts first. Every unusable value is
  reported; if all are usable, they must also go together.
-/
import ClusterAccess.Manifest.Basic
import ClusterAccess.Settings.Scalar
import ClusterAccess.Text.Lower

namespace ClusterAccess

/-- What an installation is for. -/
inductive Stage
  | development
  | production
  | test
  deriving DecidableEq, Repr

namespace Stage

/-- The word for a stage. -/
def name : Stage → String
  | .development => "development"
  | .production => "production"
  | .test => "test"

/-- The stage that a word names. -/
def ofName? : String → Option Stage
  | "development" => some .development
  | "production" => some .production
  | "test" => some .test
  | _ => none

/-- Reads a stage. -/
def read (j : Json) : Scalar.Outcome Stage :=
  match j.text?.bind ofName? with
  | some stage => .ok stage
  | none => .error .notChoice

end Stage

/-- The configuration. -/
structure Settings where
  stage : Stage := .development
  logLevel : String := "INFO"
  logJson : Bool := false
  host : String := "0.0.0.0"
  portNumber : Int := 8000
  kubeContext : Option String := none
  kubeConfigPath : Option String := none
  kubeConfigData : Option String := none
  serviceAccountTokenPath : Option String := none
  apiServer : Option String := none
  token : Option String := none
  caData : Option String := none
  skipTlsVerify : Bool := false
  /-- How many items a list call asks for. -/
  pageSize : Nat := 500
  namespaceTtl : Nat := 300
  /-- Zero keeps the bindings for ever. -/
  bindingTtl : Nat := 0
  listingTtl : Nat := 600
  syncPods : Bool := true
  deriving DecidableEq, Repr, Inhabited

namespace Settings

/-! ## Where values come from -/

/-- Reads the value of a field, which has a default. -/
def readAs {α : Type} (name : String) (default : α) (read : Json → Scalar.Outcome α) :
    Option Json → Validated α
  | none => .valid default
  | some j =>
    match read j with
    | .ok value => .valid value
    | .error problem => .fault [name] problem

/-- Arguments, and the variables of the environment. -/
structure Sources where
  arguments : List (String × Json) := []
  environment : List (String × String) := []
  deriving Repr

namespace Sources

/-- The argument with a name in any case; of several the first counts. -/
def argument? (s : Sources) (name : String) : Option Json :=
  (s.arguments.find? fun a => Text.lower a.1 = name).map (·.2)

/-- The variable with a name in any case; of several the last counts. -/
def fromEnvironment? (s : Sources) (name : String) : Option String :=
  (s.environment.reverse.find? fun v => Text.lower v.1 = name).map (·.2)

/-- The value of a field. -/
def value? (s : Sources) (name : String) : Option Json :=
  (s.argument? name).or ((s.fromEnvironment? name).map .text)

/-- Reads a field, which has a default. -/
def field {α : Type} (s : Sources) (name : String) (default : α)
    (read : Json → Scalar.Outcome α) : Validated α :=
  readAs name default read (s.value? name)

/-- Whether an argument has exactly this name. -/
def names (s : Sources) (name : String) : Bool :=
  (Json.fieldOf? name s.arguments).isSome

/-- Reads the path of the cluster configuration. An argument may give it a name in capitals, which
counts first. Faults show that name, too, unless an argument has exactly the other one. -/
def configPath (s : Sources) : Validated (Option String) :=
  let shown := if s.names "kube_config_path" ∧ ¬ s.names "KUBE_CONFIG_PATH" then "kube_config_path"
    else "KUBE_CONFIG_PATH"
  readAs shown none Scalar.text?
    ((Json.fieldOf? "KUBE_CONFIG_PATH" s.arguments).or (s.value? "kube_config_path"))

end Sources

/-! ## Reading -/

/-- A text that is given and not empty. -/
def given (value : Option String) : Option String :=
  value.filter (· ≠ "")

/-- Whether a text is given and not empty. -/
def isGiven (value : Option String) : Bool :=
  (given value).isSome

/-- Why the values do not go together, if they do not. -/
def conflict? (s : Settings) : Option String :=
  if isGiven s.token ∧ ¬ isGiven s.apiServer then some "kube_token requires kube_api_server"
  else if isGiven s.token ∧ (isGiven s.kubeConfigPath ∨ isGiven s.kubeConfigData) then
    some "kube_token and a kubeconfig are mutually exclusive"
  else if isGiven s.kubeConfigPath ∧ isGiven s.kubeConfigData then
    some "kube_config_path and kubeconfig_data are mutually exclusive"
  else none

/-- Reads each field. -/
def readFields (s : Sources) : Validated Settings :=
  Settings.mk <$> s.field "app_env" .development Stage.read
    <*> s.field "log_level" "INFO" Scalar.text
    <*> s.field "log_json" false Scalar.truth
    <*> s.field "host" "0.0.0.0" Scalar.text
    <*> s.field "port" 8000 Scalar.integer
    <*> s.field "kube_context" none Scalar.text?
    <*> s.configPath
    <*> s.field "kubeconfig_data" none Scalar.text?
    <*> s.field "service_account_token_path" none Scalar.text?
    <*> s.field "kube_api_server" none Scalar.text?
    <*> s.field "kube_token" none Scalar.text?
    <*> s.field "kube_ca_data" none Scalar.text?
    <*> s.field "kube_insecure_skip_tls_verify" false Scalar.truth
    <*> s.field "page_size" 500 Scalar.positive
    <*> s.field "namespace_cache_ttl_seconds" 300 Scalar.natural
    <*> s.field "binding_cache_ttl_seconds" 0 Scalar.natural
    <*> s.field "listing_ttl_seconds" 600 Scalar.positive
    <*> s.field "sync_pods" true Scalar.truth

/-- The settings that the sources give. -/
def read (s : Sources) : Manifest.Reading Settings := do
  let settings ← Manifest.finish (readFields s)
  match settings.conflict? with
  | some reason => .error (.fields [⟨[], .rejected reason⟩])
  | none => pure settings

/-! ## Writing -/

/-- Whether the installation is one to develop on. -/
def isDebug (s : Settings) : Bool :=
  s.stage == .development

/-- The settings as a document. -/
def toJson (s : Settings) : Json := .object [
  ("app_env", .text s.stage.name),
  ("log_level", .text s.logLevel),
  ("log_json", .bool s.logJson),
  ("host", .text s.host),
  ("port", .int s.portNumber),
  ("kube_context", .ofText? s.kubeContext),
  ("kube_config_path", .ofText? s.kubeConfigPath),
  ("kubeconfig_data", .ofText? s.kubeConfigData),
  ("service_account_token_path", .ofText? s.serviceAccountTokenPath),
  ("kube_api_server", .ofText? s.apiServer),
  ("kube_token", .ofText? s.token),
  ("kube_ca_data", .ofText? s.caData),
  ("kube_insecure_skip_tls_verify", .bool s.skipTlsVerify),
  ("page_size", .int s.pageSize),
  ("namespace_cache_ttl_seconds", .int s.namespaceTtl),
  ("binding_cache_ttl_seconds", .int s.bindingTtl),
  ("listing_ttl_seconds", .int s.listingTtl),
  ("sync_pods", .bool s.syncPods),
  ("is_debug", .bool s.isDebug)]

end Settings
end ClusterAccess
