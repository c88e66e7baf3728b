/-
  ClusterAccess.Manifest.Basic

  Reading the raw objects that a cluster serves. A missing field, a field of
  something that has no fields, and `null` are the same; most places also take
  any other empty value for a missing one. A list may be given as a text, which
  stands for its characters, or as an object, which stands for its keys.
-/
import ClusterAccess.FieldFault
import ClusterAccess.Json.Basic
import ClusterAccess.Timestamp.Reader

namespace ClusterAccess

/-- A text that is no moment where one is read: how it is shown, and why it is none. -/
structure Misdated where
  shown : String
  refusal : Timestamp.Refusal
  deriving DecidableEq, Repr

/-- Why a text is no moment, in words. -/
def Misdated.message (m : Misdated) : String :=
  m.refusal.message m.shown

/-- Why a raw object cannot be read. -/
inductive Malformed
  /-- Fields hold the wrong values. -/
  | fields (faults : List FieldFault)
  /-- A value of this shape stands where a list is read. -/
  | notList (shape : String)
  /-- A value of this shape stands where keys are read. -/
  | notKeyed (shape : String)
  | misdated (fault : Misdated)
  /-- A value of this shape stands where a value is read that holds no others. -/
  | notPlain (shape : String)
  /-- Values of these two shapes have no order. -/
  | notOrdered (shape other : String)
  deriving DecidableEq, Repr

namespace Manifest

/-- A reading of a raw value. -/
abbrev Reading (α : Type) := Except Malformed α

/-- The name of a value's shape in messages. -/
def shape : Json → String
  | .null => "NoneType"
  | .bool _ => "bool"
  | .int _ => "int"
  | .real _ => "float"
  | .text _ => "str"
  | .brokenText _ => "str"
  | .array _ => "list"
  | .object _ => "dict"
  | .brokenObject _ => "dict"

/-- The parts of a value: the items of a list, the characters of a text, the names of fields. -/
def parts : Json → Reading (List Json)
  | .array items => .ok items
  | .text s => .ok (s.toList.map fun c => .text (String.ofList [c]))
  | .brokenText symbols => .ok (symbols.map fun s => .ofSymbols [s])
  | .object fields => .ok (fields.map fun f => .text f.1)
  | .brokenObject fields => .ok (fields.map fun f => .ofSymbols f.1)
  | j => .error (.notList (shape j))

/-- The elements of a value that is read as a list. -/
def elements (j : Json) : Reading (List Json) :=
  if j.isEmpty then .ok [] else parts j

/-- The fields of a value that is read as texts by name; other values are shown as texts. -/
def textMap (j : Json) : Reading (List (String × String)) :=
  if j.isEmpty then .ok []
  else match j.fields? with
    | some fields => .ok (fields.map fun f => (f.1, f.2.display))
    | none => .error (.notKeyed (shape j))

/-- A value that has to be a text. -/
def text (path : List String) (j : Json) : Validated String :=
  match j.looseText? with
  | some s => .valid s
  | none => .fault path .notText

/-- A value that has to be a text or missing. -/
def text? (path : List String) : Json → Validated (Option String)
  | .null => .valid none
  | j => some <$> text path j

/-- A field that has to be a text; anything empty counts as the empty text. -/
def textOrEmpty (name : String) (j : Json) : Validated String :=
  text [name] ((j.field name).orElse (.text ""))

/-- A field of the metadata that has to be a text; only a missing one counts as the empty text. -/
def metadataText (name : String) (j : Json) : Validated String :=
  match (j.field "metadata").field name with
  | .null => .valid ""
  | value => text [name] value

/-- Elements that have to be texts, in a field of that name. -/
def texts (name : String) (items : List Json) : Validated (List String) :=
  .all (items.mapIdx fun i item => text [name, toString i] item)

/-- Reads a text as a moment. -/
def momentOf (symbols : List Text.Symbol) : Except Misdated Timestamp :=
  (Timestamp.readSymbols symbols).mapError fun refusal => ⟨Text.quotedSymbols symbols, refusal⟩

/-- What is wrong with the text of the moment when a raw object was made, if anything is. -/
def misdated? (j : Json) : Option Misdated :=
  match (((j.field "metadata").field "creation_timestamp").symbols?).map momentOf with
  | some (.error fault) => some fault
  | _ => none

/-- A raw object, unless the text of the moment when it was made is none. Nothing can be read of one
that is refused here. -/
def dated (j : Json) : Reading Json :=
  match misdated? j with
  | some fault => .error (.misdated fault)
  | none => .ok j

/-- The outcome of reading fields. -/
def finish {α : Type} : Validated α → Reading α
  | .valid value => .ok value
  | .invalid faults => .error (.fields faults)

end Manifest
end ClusterAccess
