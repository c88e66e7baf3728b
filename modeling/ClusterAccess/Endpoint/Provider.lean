/-
  ClusterAccess.Endpoint.Provider

  Providers of tokens that a user of a configuration document may name. A token
  of theirs has a time until which it is good; nobody is there to renew it. Two
  of them give no token at all where something is left out, the third one wants
  to have the token made by a command.
-/
import ClusterAccess.Endpoint.Material
import ClusterAccess.Json.Reader

namespace ClusterAccess.Provider

/-! ## Ends -/

/-- How many seconds before its end a token counts as expired. -/
def margin : Int := 300

/-- The least moment that a date has, in microseconds since the beginning of 1970. -/
def leastMoment : Int := -62135596800 * Timestamp.micro

/-- Whether a moment, given in microseconds, is not ahead by more than the margin. The local time
that some seconds of offset belong to has to be a date, too. -/
def isNear (m : Machine) (moment offset : Int) : Usable Bool :=
  let early := moment - margin * Timestamp.micro
  if early < leastMoment then Usable.defective .dateBeyond
  else if 86400 ≤ offset.natAbs then Usable.defective .offsetBeyond
  else .ok (early - offset * Timestamp.micro ≤ m.seconds * Timestamp.micro)

/-! ## Tokens with an end beside them -/

/-- The number that a text of digits is written for. -/
def numberOf (shown : String) (cs : List Char) : Usable Int :=
  let digits := cs.takeWhile Text.isDecimal
  if Json.integerDigitLimit < digits.length then
    Usable.defective (.longNumber digits.length)
  else if digits.length < cs.length then
    Usable.defective (.notNumber (String.ofList (shown.toList.take 200)))
  else .ok (Text.decimalNumber digits)

/-- Whether the end of a token lies behind, given as a number of seconds or as a date and a time. -/
def isOver (m : Machine) (place : Place) : Usable Bool := do
  let s ← place.textFor "isdigit"
  if s ≠ "" ∧ s.toList.all Text.isAnyDigit then
    return (← numberOf place.value.displayInner s.toList) < m.seconds
  else
    match Timestamp.Dated.read s with
    | .ok parts => return parts.isUpTo (.ofTimestamp (.ofSeconds m.seconds 0))
    | .error refusal => Usable.defective (.notDated place.value.displayInner refusal)

/-- The token of a provider that names the end of it by date or by number. -/
def datedToken (m : Machine) (provider : Place) : Usable (Option String) := do
  match ← provider.get? "config" with
  | none => pure none
  | some config =>
    if !(← config.has "access-token") then
      return none
    match ← config.get? "expires-on" with
    | some place => if ← isOver m place then Usable.defective .noRenewal
    | none => pure ()
    let token ← config.get "access-token"
    return some token.value.display

/-! ## Tokens that a command makes -/

/-- The first word of a text. -/
def firstWord (cs : List Char) : List Char :=
  (cs.dropWhile Text.isSpacing).takeWhile fun c => !Text.isSpacing c

/-- Has a token made by the command that a provider names, which has no words but the first one if
its other words are given. No machine has any commands here. -/
def commandToken (m : Machine) (config : Place) : Usable (Option String) := do
  if !(← config.has "cmd-path") then
    Usable.defective (.noMember "NoneType" "token")
  let command ← config.get "cmd-path"
  match command.size? with
  | none => Usable.defective (.noLength command.shape)
  | some size =>
    if size = 0 then
      Usable.unusable
        "missing access token cmd (cmd-path is an empty string in your kubeconfig file)"
  match ← config.get? "scopes" with
  | none => pure ()
  | some scopes =>
    if scopes.value.text? ≠ some "" then
      Usable.unusable "scopes can only be used when kubectl is using a gcp service account key"
  -- Other words are put behind the path; without them the path itself is cut into words.
  match ← config.get? "cmd-args" with
  | some words =>
    let _ ← words.textFor "split"
    match command.value.looseText? with
    | some path => Usable.defective (m.startFault path)
    | none => Usable.defective (.notAddable command.shape)
  | none =>
    match firstWord (← command.textFor "split").toList with
    | [] => Usable.defective .noWord
    | word => Usable.defective (m.startFault (String.ofList word))

/-- Whether the end of a token, if one is given, is near. -/
def isExpiring (m : Machine) (config : Place) : Usable Bool := do
  match ← config.get? "expiry" with
  | none => return false
  | some place =>
    match Timestamp.Rfc3339.read (← place.textFor "strip") with
    | .ok (parts, offset) => isNear m parts.microseconds offset
    | .error refusal => Usable.defective (.notMoment place.value.displayInner refusal)

/-- The token of a provider that has it made when it is missing or expires. -/
def madeToken (m : Machine) (provider : Place) : Usable (Option String) := do
  match ← provider.get? "config" with
  | none => Usable.defective (.noMember "NoneType" "token")
  | some config =>
    if !(← config.has "access-token") then
      return ← commandToken m config
    if ← isExpiring m config then
      return ← commandToken m config
    let token ← config.get "access-token"
    return some token.value.display

/-! ## Tokens that tell their own end -/

/-- The middle one of three parts of a signed token, as base64 with padding. -/
def claimsText? (token : String) : Option (List Char) :=
  match Text.parts '.' token.toList with
  | [_, claims, _] =>
    if claims.length % 4 = 1 then none
    else some (claims ++ List.replicate (4 - claims.length % 4) '=')
  | _ => none

/-- The octets that base64 of ASCII characters stands for. -/
def octetsOf (alphabet : Text.Base64.Alphabet) (cs : List Char) : Usable (List Nat) :=
  if cs.all fun c => c.toNat < 128 then
    (Text.Base64.decode alphabet cs).mapError fun fault => .defect (.base64 fault)
  else Usable.defective .notAscii

/-- The text that octets are the UTF-8 of. -/
def textOf (octets : List Nat) : Usable (List Text.Symbol) :=
  match Text.utf8Fault? octets with
  | some fault => Usable.defective (.utf8 fault)
  | none => .ok ((Text.readUtf8 none octets).getD [])

/-- The document that base64 stands for. -/
def claimsOf (cs : List Char) : Usable Json := do
  let symbols ← textOf (← octetsOf .urlSafe cs)
  (Json.read symbols).mapError fun refusal => .defect (.document refusal)

/-- The end of a token in microseconds, if its claims name one. -/
def claimedEnd? (claims : Json) : Usable (Option Int) :=
  let ofEpoch (moment : Except Timestamp.Epoch.Refusal Int) : Usable (Option Int) :=
    match moment with
    | .ok moment => .ok (some moment)
    | .error refusal => Usable.defective (.notEpoch refusal)
  match claims with
  | .object _ | .brokenObject _ =>
    match claims.field "exp" with
    | .null => .ok none
    | .int i => ofEpoch (Timestamp.Epoch.ofNumber i)
    | .bool b => ofEpoch (Timestamp.Epoch.ofNumber b.toNat)
    | .real d => ofEpoch (Timestamp.Epoch.ofReal d)
    | j => Usable.defective (.notSeconds (Manifest.shape j))
  | j => Usable.defective (.noMember (Manifest.shape j) "get")

/-- Asks the issuer of an expired token for a new one. The issuer has to be named, and its
certificate to be readable if it is given. -/
def issuedToken (config : Place) : Usable (Option String) := do
  match ← config.get? "idp-certificate-authority-data" with
  | none => pure ()
  | some place =>
    match place.value.symbols? with
    | none => Usable.defective (.notOctets place.shape)
    | some symbols =>
      let _ ← textOf (← octetsOf .standard (Text.joinHalves symbols))
  let _ ← config.get "idp-issuer-url"
  Usable.defective .noRenewal

/-- The token of a provider of signed tokens. A text that is no such token counts for nothing. -/
def signedToken (m : Machine) (provider : Place) : Usable (Option String) := do
  match ← provider.get? "config" with
  | none => return none
  | some config =>
    let place ← config.get "id-token"
    -- Marks of the standard alphabet have no place in a signed token.
    if (← ["=", "+", "/"].anyM place.has) then
      return none
    let token ← place.textFor "split"
    match claimsText? token with
    | none => return none
    | some cs =>
      match ← claimedEnd? (← claimsOf cs) with
      | some moment => if ← isNear m moment 0 then return ← issuedToken config
      | none => pure ()
      return some token

/-! ## Any provider -/

/-- The token of the provider that a user names. -/
def token (m : Machine) (user : Place) : Usable (Option String) := do
  match ← user.get? "auth-provider" with
  | none => pure none
  | some provider =>
    match ← provider.get? "name" with
    | none => pure none
    | some name =>
      match name.value with
      | .text "gcp" => madeToken m provider
      | .text "azure" => datedToken m provider
      | .text "oidc" => signedToken m provider
      | _ => pure none

end ClusterAccess.Provider
