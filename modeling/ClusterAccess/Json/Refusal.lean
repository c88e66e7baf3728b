/-
  ClusterAccess.Json.Refusal

  Why a text is no document: the first thing in it that cannot stand where it
  stands, with its place, or a number or a nesting that is larger than a document
  may have.
-/
import ClusterAccess.Text.Utf

namespace ClusterAccess.Json

open Text (Symbol)

/-- A value that holds other values. -/
inductive Container
  | array
  | object
  deriving DecidableEq, Repr

/-- What cannot stand where it stands, or what is missing there. -/
inductive Misfit
  /-- A byte order mark in front of the document. -/
  | byteOrderMark
  /-- No value begins here. -/
  | value
  /-- No name of a field begins here. -/
  | fieldName
  /-- No colon follows the name of a field. -/
  | colon
  /-- Neither a comma nor the end follows an item or a field. -/
  | comma
  /-- Something follows the document. -/
  | extra
  /-- A text begins here that does not end. -/
  | openText
  /-- A control character inside a text. -/
  | control
  /-- A backslash with a character that it says nothing with. -/
  | escape
  /-- An escape by number without its four digits. -/
  | numberedEscape
  deriving DecidableEq, Repr

namespace Misfit

/-- What is wrong, in words. -/
def message : Misfit → String
  | .byteOrderMark => "Unexpected UTF-8 BOM (decode using utf-8-sig)"
  | .value => "Expecting value"
  | .fieldName => "Expecting property name enclosed in double quotes"
  | .colon => "Expecting \x27:\x27 delimiter"
  | .comma => "Expecting \x27,\x27 delimiter"
  | .extra => "Extra data"
  | .openText => "Unterminated string starting at"
  | .control => "Invalid control character at"
  | .escape => "Invalid \\escape"
  | .numberedEscape => "Invalid \\uXXXX escape"

end Misfit

/-- A place in a text: lines and columns count from one, the offset from zero. -/
structure Spot where
  line : Nat
  column : Nat
  offset : Nat
  deriving DecidableEq, Repr

namespace Spot

/-- The place behind these symbols. -/
def behind (front : List Symbol) : Spot where
  line := front.count (.char '\n') + 1
  column := (front.reverse.takeWhile (· ≠ .char '\n')).length + 1
  offset := front.length

/-- The place where the last part of a text begins. -/
def ofRest (symbols rest : List Symbol) : Spot :=
  behind (symbols.take (symbols.length - rest.length))

/-- A place in words. -/
def message (s : Spot) : String :=
  "line " ++ toString s.line ++ " column " ++ toString s.column ++
    " (char " ++ toString s.offset ++ ")"

end Spot

/-- Why a text is no document, with places given in some way. -/
inductive Refusal (α : Type)
  | misplaced (what : Misfit) (place : α)
  /-- An integer has this many digits. -/
  | tooLong (digits : Nat)
  /-- A list or an object stands inside too many others. -/
  | tooDeep (inside : Container)
  deriving DecidableEq, Repr

/-- The most digits that an integer may have. -/
def integerDigitLimit : Nat := 4300

/-- That an integer has too many digits, in words. -/
def longNumberMessage (digits : Nat) : String :=
  "Exceeds the limit (" ++ toString integerDigitLimit ++
    " digits) for integer string conversion: value has " ++ toString digits ++
    " digits; use sys.set_int_max_str_digits() to increase the limit"

/-- How many lists and objects may stand inside each other. -/
def nestingLimit : Nat := 980

namespace Refusal

/-- Gives places in another way. -/
def map {α β : Type} (f : α → β) : Refusal α → Refusal β
  | .misplaced what place => .misplaced what (f place)
  | .tooLong digits => .tooLong digits
  | .tooDeep inside => .tooDeep inside

/-- Why a text is no document, in words. -/
def message : Refusal Spot → String
  | .misplaced what place => what.message ++ ": " ++ place.message
  | .tooLong digits => longNumberMessage digits
  | .tooDeep inside =>
    let kind := match inside with
      | .array => "array"
      | .object => "object"
    "maximum recursion depth exceeded while decoding a JSON " ++ kind ++ " from a unicode string"

end Refusal
end ClusterAccess.Json
