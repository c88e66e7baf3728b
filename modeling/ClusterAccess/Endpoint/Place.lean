/-
  ClusterAccess.Endpoint.Place

  Places in a configuration document. A place is known by the way that leads to
  it, and what is missing is told by that way. A document may hold any value
  anywhere, so that looking for a name in a value can itself be a mistake.
-/
import ClusterAccess.Fault
import ClusterAccess.Json.Same
import ClusterAccess.Text.Split

namespace ClusterAccess

/-- An outcome, or the reason why a configuration cannot be used. -/
abbrev Usable (α : Type) := Except Fault α

namespace Usable

/-- A configuration that is told to be unusable. -/
def unusable {α : Type} (reason : String) : Usable α :=
  .error (.configuration (.unusable reason))

/-- A document that is told to be unusable. -/
def invalid {α : Type} (what : String) : Usable α :=
  unusable ("Invalid kube-config file. " ++ what)

/-- A configuration with something in it that nobody looked for. -/
def defective {α : Type} (defect : Defect) : Usable α :=
  .error (.defect defect)

end Usable

/-! ## Names in values -/

namespace Json

/-- Whether a name stands in a value: as a field, as an item, or within a text. -/
def named (name : String) (j : Json) : Usable Bool :=
  match j with
  | .object _ | .brokenObject _ => .ok (j.field? name).isSome
  | .array items => .ok (items.any (same (.text name)))
  | _ =>
    match j.looseText? with
    | some s => .ok (Text.holds name.toList s.toList)
    | none => Usable.defective (.notSearchable (Manifest.shape j))

/-- The value under a name that stands in a value. Only fields have values. -/
def valueNamed (name : String) (j : Json) : Usable Json :=
  match j with
  | .array _ => Usable.defective .namedItem
  | .text _ | .brokenText _ => Usable.defective .namedCharacter
  | j => .ok (j.field name)

end Json

/-! ## Places -/

/-- A value and the name of its place. -/
structure Place where
  name : String
  value : Json
  deriving Repr

namespace Place

/-- The name of a place's shape in messages. -/
def shape (p : Place) : String :=
  match p.value with
  | .array _ | .object _ | .brokenObject _ => "ConfigNode"
  | j => Manifest.shape j

/-- Whether a place has places of its own. -/
def isInner (p : Place) : Bool :=
  p.shape == "ConfigNode"

/-- Refuses a place without places of its own where a member of such places is asked for. -/
def expectInner (p : Place) (member : String) : Usable Unit :=
  if p.isInner then .ok () else Usable.defective (.noMember p.shape member)

/-- Whether a name stands at a place. -/
def has (p : Place) (key : String) : Usable Bool :=
  p.value.named key

/-- The value under a name, or `null` if the name does not stand at the place. -/
def value? (p : Place) (key : String) : Usable Json := do
  if ← p.has key then p.value.valueNamed key else pure .null

/-- The place under a name, which has to be there. -/
def get (p : Place) (key : String) : Usable Place := do
  match ← p.value? key with
  | .null => Usable.invalid ("Expected key " ++ key ++ " in " ++ p.name)
  | value => pure ⟨p.name ++ "/" ++ key, value⟩

/-- The place under a name, if the name stands here. -/
def get? (p : Place) (key : String) : Usable (Option Place) := do
  if ← p.has key then some <$> p.get key else pure none

/-- The text at a place, of which a member is asked for. -/
def textFor (p : Place) (member : String) : Usable String :=
  match p.value.looseText? with
  | some s => .ok s
  | none => Usable.defective (.noMember p.shape member)

/-- How many parts the value at a place has, if it has any. -/
def size? (p : Place) : Option Nat :=
  match p.value with
  | .array items => some items.length
  | .object fields => some fields.length
  | .brokenObject fields => some fields.length
  | j => (j.symbols?).map List.length

/-! ## Named entries -/

/-- The name of an entry. -/
def nameOf (p : Place) (entry : Json) : Usable Json := do
  if ← entry.named "name" then
    entry.valueNamed "name"
  else
    Usable.invalid ("Expected all values in " ++ p.name ++ " list to have \x27name\x27 key")

/-- Goes through the entries of a list for the one with a name, past the one that has been found.
An entry without a name ends the search, as does a second one with the name. -/
def search (p : Place) (shown : String) (wanted : Json → Bool) :
    Option Json → List Json → Usable (Option Json)
  | found, [] => .ok found
  | found, entry :: rest => do
    let name ← p.nameOf entry
    match wanted name, found with
    | false, _ => search p shown wanted found rest
    | true, none => search p shown wanted (some entry) rest
    | true, some _ =>
      Usable.invalid ("Expected only one object with name " ++ shown ++ " in " ++ p.name ++ " list")

/-- The entry of a list that has a name. -/
def entryNamed? (p : Place) (name : Json) (wanted : Json → Bool) : Usable (Option Place) :=
  match p.value with
  | .array entries => do
    let found ← search p name.display wanted none entries
    pure (found.map fun entry => ⟨p.name ++ "[name=" ++ name.display ++ "]", entry⟩)
  | _ => Usable.invalid ("Expected " ++ p.name ++ " to be a list")

/-- The entry of a list that has a name, which has to be there. -/
def entry (p : Place) (name : Json) (wanted : Json → Bool) : Usable Place := do
  let found ← p.entryNamed? name wanted
  match found with
  | some place => pure place
  | none =>
    Usable.invalid ("Expected object with name " ++ name.display ++ " in " ++ p.name ++ " list")

/-- Whether a name is the one at a place: a place with places of its own is no name. -/
def names (p : Place) (name : Json) : Bool :=
  !p.isInner && name.same p.value

end Place
end ClusterAccess
