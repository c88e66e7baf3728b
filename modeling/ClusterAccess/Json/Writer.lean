/-
  ClusterAccess.Json.Writer

  Document values as text, on one line without spaces or indented by two spaces.
  Characters beyond ASCII stand for themselves; an empty list or object takes no
  line of its own. A number that is not finite is written as null.
-/
import ClusterAccess.Json.Basic

namespace ClusterAccess.Json

/-- One character inside quotation marks. -/
def escapeChar (c : Char) : List Char :=
  if c = '"' then ['\\', '"']
  else if c = '\\' then ['\\', '\\']
  else if c = '\x08' then ['\\', 'b']
  else if c = '\t' then ['\\', 't']
  else if c = '\n' then ['\\', 'n']
  else if c = '\x0c' then ['\\', 'f']
  else if c = '\r' then ['\\', 'r']
  else if c.toNat < 0x20 then '\\' :: 'u' :: Text.hex 4 c.toNat
  else [c]

/-- A text between quotation marks. -/
def writeText (s : String) : List Char :=
  '"' :: s.toList.flatMap escapeChar ++ ['"']

/-- Symbols between quotation marks: half of a pair is written by number. -/
def writeSymbols (symbols : List Text.Symbol) : List Char :=
  '"' :: symbols.flatMap escapeSymbol ++ ['"']
where
  /-- One symbol inside quotation marks. -/
  escapeSymbol : Text.Symbol → List Char
    | .char c => escapeChar c
    | .half unit => '\\' :: 'u' :: Text.hex 4 unit

/-- A value that holds no other value. -/
def writeScalar : Json → List Char
  | .null => "null".toList
  | .bool true => "true".toList
  | .bool false => "false".toList
  | .int i => (toString i).toList
  | .real d => ((Number.finiteText? .document d).getD "null").toList
  | .text s => writeText s
  | .brokenText symbols => writeSymbols symbols
  | .array _ => []
  | .object _ => []
  | .brokenObject _ => []

/-! ## On one line -/

mutual
/-- A value on one line. -/
def compactChars : Json → List Char
  | .array items => '[' :: compactItems items ++ [']']
  | .object fields => '\x7b' :: compactFields fields ++ ['\x7d']
  | .brokenObject fields => '\x7b' :: compactNamed fields ++ ['\x7d']
  | j => writeScalar j

/-- The items of a list, separated by commas. -/
def compactItems : List Json → List Char
  | [] => []
  | [item] => compactChars item
  | item :: items => compactChars item ++ ',' :: compactItems items

/-- The fields of an object, separated by commas. -/
def compactFields : List (String × Json) → List Char
  | [] => []
  | [(key, value)] => writeText key ++ ':' :: compactChars value
  | (key, value) :: fields =>
    writeText key ++ ':' :: compactChars value ++ ',' :: compactFields fields

/-- The fields of an object of which the names are symbols. -/
def compactNamed : List (List Text.Symbol × Json) → List Char
  | [] => []
  | [(key, value)] => writeSymbols key ++ ':' :: compactChars value
  | (key, value) :: fields =>
    writeSymbols key ++ ':' :: compactChars value ++ ',' :: compactNamed fields
end

/-- A value on one line. -/
def compact (j : Json) : String :=
  String.ofList j.compactChars

/-! ## Indented -/

/-- A new line at a depth. -/
def newLine (depth : Nat) : List Char :=
  '\n' :: List.replicate (2 * depth) ' '

mutual
/-- A value at a depth, its parts on lines of their own. -/
def indentedChars (depth : Nat) : Json → List Char
  | .array [] => ['[', ']']
  | .array items => '[' :: indentedItems (depth + 1) items ++ newLine depth ++ [']']
  | .object [] => ['\x7b', '\x7d']
  | .object fields => '\x7b' :: indentedFields (depth + 1) fields ++ newLine depth ++ ['\x7d']
  | .brokenObject fields =>
    '\x7b' :: indentedNamed (depth + 1) fields ++ newLine depth ++ ['\x7d']
  | j => writeScalar j

/-- The items of a list, each on a line of its own. -/
def indentedItems (depth : Nat) : List Json → List Char
  | [] => []
  | [item] => newLine depth ++ indentedChars depth item
  | item :: items => newLine depth ++ indentedChars depth item ++ ',' :: indentedItems depth items

/-- The fields of an object, each on a line of its own. -/
def indentedFields (depth : Nat) : List (String × Json) → List Char
  | [] => []
  | [(key, value)] => newLine depth ++ writeText key ++ ':' :: ' ' :: indentedChars depth value
  | (key, value) :: fields =>
    newLine depth ++ writeText key ++ ':' :: ' ' :: indentedChars depth value ++
      ',' :: indentedFields depth fields

/-- The fields of an object of which the names are symbols. -/
def indentedNamed (depth : Nat) : List (List Text.Symbol × Json) → List Char
  | [] => []
  | [(key, value)] =>
    newLine depth ++ writeSymbols key ++ ':' :: ' ' :: indentedChars depth value
  | (key, value) :: fields =>
    newLine depth ++ writeSymbols key ++ ':' :: ' ' ::
      indentedChars depth value ++ ',' :: indentedNamed depth fields
end

/-- A value indented by two spaces a level. -/
def indented (j : Json) : String :=
  String.ofList (j.indentedChars 0)

end ClusterAccess.Json
