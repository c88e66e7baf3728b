/-
  ClusterAccess.Json.Basic

  Document values. The fields of an object stand in the order in which they were
  first written, integers are exact, and a text that holds half of a surrogate
  pair is kept apart from the texts that can be read, as is an object with such
  a text among the names of its fields.
-/
import ClusterAccess.Number.Shortest
import ClusterAccess.Text.Quoted

namespace ClusterAccess

/-- A document value. -/
inductive Json
  | null
  | bool (b : Bool)
  | int (i : Int)
  | real (d : Decimal)
  | text (s : String)
  /-- A text with half of a surrogate pair in it. -/
  | brokenText (symbols : List Text.Symbol)
  | array (items : List Json)
  | object (fields : List (String × Json))
  /-- An object with half of a surrogate pair in the name of a field. -/
  | brokenObject (fields : List (List Text.Symbol × Json))
  deriving Repr, Inhabited

namespace Json

/-! ## Fields -/

/-- Sets a field: the last value counts, in the place of the first. -/
def setField {κ : Type} [DecidableEq κ] (key : κ) (value : Json) :
    List (κ × Json) → List (κ × Json)
  | [] => [(key, value)]
  | (k, v) :: rest => if k = key then (k, value) :: rest else (k, v) :: setField key value rest

/-- A field of a list of fields. -/
def fieldOf? (key : String) (fields : List (String × Json)) : Option Json :=
  (fields.find? fun f => f.1 = key).map (·.2)

/-- The fields of an object; halves of pairs are joined or replaced in their names. -/
def fields? : Json → Option (List (String × Json))
  | .object fields => some fields
  | .brokenObject fields => some (fields.map fun f => (Text.replaceHalves f.1, f.2))
  | _ => none

/-- A field of an object; other values have none. -/
def field? (key : String) : Json → Option Json
  | .object fields => fieldOf? key fields
  | .brokenObject fields => (fields.find? fun f => f.1 = key.toList.map .char).map (·.2)
  | _ => none

/-- A field of an object, or `null` if there is none. -/
def field (key : String) (j : Json) : Json :=
  (j.field? key).getD .null

/-! ## Emptiness -/

/-- The values that stand for nothing: `null`, `false`, zero, and the empty text, list and
object. -/
def isEmpty : Json → Bool
  | .null => true
  | .bool b => !b
  | .int i => i == 0
  | .real d => d.isZero
  | .text s => s.isEmpty
  | .brokenText _ => false
  | .array items => items.isEmpty
  | .object fields => fields.isEmpty
  | .brokenObject _ => false

/-- The value itself, or the other one if it stands for nothing. -/
def orElse (j other : Json) : Json :=
  if j.isEmpty then other else j

/-- The text of a text value. -/
def text? : Json → Option String
  | .text s => some s
  | _ => none

/-- The text of a text value; halves of pairs are joined or replaced. -/
def looseText? : Json → Option String
  | .text s => some s
  | .brokenText symbols => some (Text.replaceHalves symbols)
  | _ => none

/-- The symbols of a text value. -/
def symbols? : Json → Option (List Text.Symbol)
  | .text s => some (s.toList.map .char)
  | .brokenText symbols => some symbols
  | _ => none

/-- A text, or `null` without one. -/
def ofText? : Option String → Json
  | some s => .text s
  | none => .null

/-- A list of texts. -/
def ofTexts (texts : List String) : Json :=
  .array (texts.map .text)

/-! ## Values of symbols -/

/-- A text value from its symbols. -/
def ofSymbols (symbols : List Text.Symbol) : Json :=
  match Text.wholeText? symbols with
  | some cs => .text (String.ofList cs)
  | none => .brokenText symbols

/-- An object from its fields, of which the names are symbols. -/
def ofNamed (fields : List (List Text.Symbol × Json)) : Json :=
  match fields.mapM fun f => (Text.wholeText? f.1).map fun cs => (String.ofList cs, f.2) with
  | some fields => .object fields
  | none => .brokenObject fields

/-! ## Display -/

mutual
/-- A value inside a displayed list or object: texts are quoted. -/
def displayInner : Json → String
  | .null => "None"
  | .bool b => if b then "True" else "False"
  | .int i => toString i
  | .real d => Number.text d
  | .text s => Text.quoted s
  | .brokenText symbols => Text.quotedSymbols symbols
  | .array items => "[" ++ displayItems items ++ "]"
  | .object fields => "\x7b" ++ displayFields fields ++ "\x7d"
  | .brokenObject fields => "\x7b" ++ displayNamed fields ++ "\x7d"

/-- The items of a list, separated by commas. -/
def displayItems : List Json → String
  | [] => ""
  | [item] => displayInner item
  | item :: items => displayInner item ++ ", " ++ displayItems items

/-- The fields of an object, separated by commas. -/
def displayFields : List (String × Json) → String
  | [] => ""
  | [(key, value)] => Text.quoted key ++ ": " ++ displayInner value
  | (key, value) :: fields =>
    Text.quoted key ++ ": " ++ displayInner value ++ ", " ++ displayFields fields

/-- The fields of an object of which the names are symbols. -/
def displayNamed : List (List Text.Symbol × Json) → String
  | [] => ""
  | [(key, value)] => Text.quotedSymbols key ++ ": " ++ displayInner value
  | (key, value) :: fields =>
    Text.quotedSymbols key ++ ": " ++ displayInner value ++ ", " ++ displayNamed fields
end

/-- A value as one text, for places that hold texts only: a text stands for itself. -/
def display : Json → String
  | .text s => s
  | .brokenText symbols => Text.replaceHalves symbols
  | j => j.displayInner

end Json
end ClusterAccess
