/-
  ClusterAccess.Endpoint.Material

  Keys, certificates and tokens in a configuration document. They stand in the
  document itself or in a file that it names; what stands in the document counts
  first. A path in the document begins at the directory of the document.
-/
import ClusterAccess.Endpoint.Place
import ClusterAccess.Machine

namespace ClusterAccess

/-- Where material is to be found. -/
inductive Material
  | absent
  /-- In the document. -/
  | inline (place : Place)
  /-- In a file. -/
  | file (path : String)
  deriving Repr

namespace Material

/-- The material that a place names under the key of a file and the key of the material itself. -/
def ofPlace (base : String) (p : Place) (fileKey dataKey : String) : Usable Material := do
  if p.value.isEmpty then
    return .absent
  match ← p.get? dataKey with
  | some data => return .inline data
  | none =>
    match ← p.get? fileKey with
    | none => return .absent
    | some place =>
      match place.value.looseText? with
      | some path => return .file (Path.normal (Path.join base path))
      | none => Usable.defective (.notPath place.shape)

/-- The octets of material that stands in the document. -/
def octets (p : Place) : Usable (List Nat) :=
  match p.value.symbols? with
  | none => Usable.defective (.notOctets p.shape)
  | some symbols =>
    match Unencodable.find? (fun s => s.char?.isSome) symbols with
    | some fault => Usable.defective (.halves fault)
    | none =>
      (Text.Base64.decode .standard (Text.joinHalves symbols)).mapError fun fault =>
        .defect (.base64 fault)

/-- Whether a key or a certificate is given, in a form that can be used. -/
def isGiven (m : Machine) : Material → Usable Bool
  | .absent => .ok false
  | .inline place =>
    if place.value.isEmpty then .ok false else (fun _ => true) <$> octets place
  | .file path =>
    if m.isFile path then .ok true else Usable.unusable ("File does not exist: " ++ path)

/-- The text of a token. -/
def text? (m : Machine) : Material → Usable (Option String)
  | .absent => .ok none
  | .inline place => .ok (if place.value.isEmpty then none else some place.value.display)
  | .file path =>
    match m.read path with
    | .ok content => .ok (if content = "" then none else some content)
    | .error defect => Usable.defective defect

end Material
end ClusterAccess
