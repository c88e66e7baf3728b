/-
  ClusterAccess.Endpoint.Document

  Configuration documents: named clusters, users and contexts, of which one
  context is current. A context names a cluster and perhaps a user. Keys and
  certificates count for encrypted connections only.
-/
import ClusterAccess.Endpoint.Credentials

namespace ClusterAccess

/-- The host of a cluster that names none. -/
def defaultHost : String := "http://localhost"

/-- Where a cluster is served, and how callers authorise and protect themselves. -/
structure Endpoint where
  host : String := defaultHost
  /-- The value that authorises each call. -/
  authorization : Option String := none
  verifiesTls : Bool := true
  /-- Whether the cluster's own certificate authority is given. -/
  hasAuthority : Bool := false
  deriving DecidableEq, Repr

/-- A configuration document, and the directory where paths in it begin. -/
structure ConfigDocument where
  root : Place
  base : String := ""
  deriving Repr

namespace ConfigDocument

/-! ## Contexts -/

/-- The entry of one of the lists of a document. -/
def listOf (d : ConfigDocument) (key : String) : Usable Place := do
  let entries ← d.root.get key
  entries.expectInner "get_with_name"
  return entries

/-- The context of a name; without one, the current context. -/
def context (d : ConfigDocument) (name : Option Json) : Usable Place := do
  let (name, wanted) ← match name with
    | some name => pure (name, fun (other : Json) => other.same name)
    | none => do
      let current ← d.root.get "current-context"
      pure (current.value, current.names)
  let entry ← (← d.listOf "contexts").entry name wanted
  entry.get "context"

/-- The user that a context names, if the document has it. -/
def user (d : ConfigDocument) (context : Place) : Usable (Option Place) := do
  context.expectInner "safe_get"
  let name ← context.value? "user"
  let users ← d.root.value? "users"
  if name.isEmpty ∨ users.isEmpty then
    return none
  let name ← context.get "user"
  match ← (← d.listOf "users").entryNamed? name.value name.names with
  | some entry => some <$> entry.get "user"
  | none => return none

/-- The cluster that a context names. -/
def cluster (d : ConfigDocument) (context : Place) : Usable Place := do
  let clusters ← d.listOf "clusters"
  let name ← context.get "cluster"
  let entry ← clusters.entry name.value name.names
  entry.get "cluster"

/-! ## Endpoints -/

/-- A host without the slashes at its end. -/
def hostOf (server : String) : String :=
  String.ofList (server.toList.reverse.dropWhile (· = '/')).reverse

/-- Whether a certificate authority is given. What a user shows of itself is looked at, too. -/
def authority (m : Machine) (base : String) (cluster user : Place) : Usable Bool := do
  let given ← (← Material.ofPlace base cluster "certificate-authority"
    "certificate-authority-data").isGiven m
  let _ ← (← Material.ofPlace base user "client-certificate" "client-certificate-data").isGiven m
  let _ ← (← Material.ofPlace base user "client-key" "client-key-data").isGiven m
  return given

/-- Where a cluster is served, and whether its certificate authority is given. -/
def server (m : Machine) (base : String) (cluster user : Place) : Usable (String × Bool) := do
  match ← cluster.get? "server" with
  | none => return (defaultHost, false)
  | some place =>
    let host := hostOf (← place.textFor "rstrip")
    if host.startsWith "https" then
      return (host, ← authority m base cluster user)
    else
      return (host, false)

/-- The endpoint of a context of a document. -/
def endpoint (d : ConfigDocument) (m : Machine) (contextName : Option Json) : Usable Endpoint := do
  let context ← d.context contextName
  let user := (← d.user context).getD ⟨"", .null⟩
  let cluster ← d.cluster context
  let authorization ← Credentials.ofUser m d.base user
  let (host, hasAuthority) ← server m d.base cluster user
  let skips ← cluster.get? "insecure-skip-tls-verify"
  let _ ← cluster.get? "tls-server-name"
  return {
    host
    authorization
    verifiesTls := skips.all fun place => place.value.isEmpty
    hasAuthority }

end ConfigDocument
end ClusterAccess
