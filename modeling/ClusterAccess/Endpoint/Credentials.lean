/-
  ClusterAccess.Endpoint.Credentials

  How a user of a configuration document authorises calls. The first of three
  ways that the user has counts: a provider of tokens, a token, and a name with a
  password.
-/
import ClusterAccess.Endpoint.Material
import ClusterAccess.Endpoint.Provider

namespace ClusterAccess.Credentials

/-- The value that authorises calls by a token. -/
def bearer (token : String) : String :=
  "Bearer " ++ token

/-- Whether a symbol has one octet in a narrow encoding. -/
def isNarrow (s : Text.Symbol) : Bool :=
  s.char?.any fun c => c.toNat < 256

/-- The value that authorises calls by a name and a password. -/
def basic (name password : List Text.Symbol) : Usable String :=
  let symbols := name ++ .char ':' :: password
  match Unencodable.find? isNarrow symbols with
  | some fault => Usable.defective (.latin fault)
  | none =>
    let octets := (Text.joinHalves symbols).map Char.toNat
    .ok ("Basic " ++ String.ofList (Text.Base64.encode .standard octets))

/-- The value of a user's name and password, if it has both. -/
def ofPassword (user : Place) : Usable (Option String) := do
  if !(← user.has "username") || !(← user.has "password") then
    return none
  let name ← user.get "username"
  match name.value.symbols? with
  | none => Usable.defective (.notAddable name.shape)
  | some nameSymbols =>
    let password ← user.get "password"
    match password.value.symbols? with
    | none => Usable.defective (.notAppendable password.shape)
    | some passwordSymbols => some <$> basic nameSymbols passwordSymbols

/-- The value of a user's token, if it has one. A file that is named for it begins at the
document. -/
def ofToken (m : Machine) (base : String) (user : Place) : Usable (Option String) := do
  user.expectInner "path"
  let material ← Material.ofPlace base user "tokenFile" "token"
  return (← material.text? m).map bearer

/-- The value that authorises the calls of a user. -/
def ofUser (m : Machine) (base : String) (user : Place) : Usable (Option String) := do
  if user.value.isEmpty then
    return none
  match ← Provider.token m user with
  | some token => return some (bearer token)
  | none =>
    match ← ofToken m base user with
    | some value => return some value
    | none => ofPassword user

end ClusterAccess.Credentials
