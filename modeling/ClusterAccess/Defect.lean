/-
  ClusterAccess.Defect

  What cannot be used as it stands, in a configuration or on the machine: a value
  of the wrong shape, a text that is not what it should be, a file that cannot be
  read. Callers are not told about defects; whoever looks after the installation
  reads their messages.
-/
import ClusterAccess.Json.Refusal
import ClusterAccess.Text.Base64
import ClusterAccess.Text.Quoted
import ClusterAccess.Timestamp.Dated
import ClusterAccess.Timestamp.Epoch
import ClusterAccess.Timestamp.Rfc3339

namespace ClusterAccess

/-- The symbols of a text that an encoding lacks: a run of them and its place. -/
structure Unencodable where
  position : Nat
  symbols : List Text.Symbol
  deriving DecidableEq, Repr

/-- The first run of symbols that an encoding lacks. -/
def Unencodable.find? (has : Text.Symbol → Bool) (symbols : List Text.Symbol) :
    Option Unencodable :=
  let front := symbols.takeWhile has
  match (symbols.drop front.length).takeWhile fun s => !has s with
  | [] => none
  | run => some ⟨front.length, run⟩

/-- What cannot be used. Shapes are names of kinds of values. -/
inductive Defect
  /-- A value of this shape has no member of this name. -/
  | noMember (shape member : String)
  /-- A value of this shape has no parts to look through. -/
  | notSearchable (shape : String)
  /-- The parts of a list have no names. -/
  | namedItem
  /-- The characters of a text have no names. -/
  | namedCharacter
  /-- A value of this shape has no parts with names. -/
  | notKeyed (shape : String)
  /-- A value of this shape has no fields to set. -/
  | notSettable (shape : String)
  /-- A value of this shape has no items to go through. -/
  | notIterable (shape : String)
  /-- A field of this name is missing. -/
  | noField (key : String)
  /-- A value of this shape stands where a text of octets is read. -/
  | notOctets (shape : String)
  /-- A value of this shape stands where a part of a path is read. -/
  | notPath (shape : String)
  /-- A value of this shape stands in front of a text that it is to be joined to. -/
  | notAddable (shape : String)
  /-- A value of this shape stands behind a text that it is to be joined to. -/
  | notAppendable (shape : String)
  /-- A value of this shape stands where seconds are read. -/
  | notSeconds (shape : String)
  | base64 (fault : Text.Base64.Incomplete)
  /-- A text with other than ASCII characters stands where base64 is read. -/
  | notAscii
  | utf8 (fault : Text.Utf8Fault)
  /-- A text with symbols that have more than one octet stands where one octet each is written. -/
  | latin (fault : Unencodable)
  /-- A text with half of a pair in it stands where UTF-8 is written. -/
  | halves (fault : Unencodable)
  | document (refusal : Json.Refusal Json.Spot)
  /-- A text of digits, as it is shown, that no number is written with. -/
  | notNumber (shown : String)
  /-- A number of this many digits. -/
  | longNumber (digits : Nat)
  /-- A text, as it is shown, that is no date and time. -/
  | notDated (shown : String) (refusal : Timestamp.Dated.Refusal)
  /-- A text, as it is shown, that is no moment. -/
  | notMoment (shown : String) (refusal : Timestamp.Rfc3339.Refusal)
  | notEpoch (refusal : Timestamp.Epoch.Refusal)
  /-- A moment before all dates. -/
  | dateBeyond
  /-- An offset of a day or more. -/
  | offsetBeyond
  /-- A value of this shape stands where the number of parts is asked for. -/
  | noLength (shape : String)
  /-- A text of white space stands where words are read. -/
  | noWord
  /-- A file that does not exist. -/
  | missingFile (path : String)
  /-- A directory stands where a file is read. -/
  | directory (path : String)
  /-- A path leads on from what is no directory. -/
  | notDirectory (path : String)
  /-- A path or a part of it is too long. -/
  | longName (path : String)
  /-- A path holds the character that ends paths. -/
  | nullInPath
  /-- What stands under a path is no command. -/
  | notStartable (path : String)
  /-- Nothing is there that could renew an expired token. -/
  | noRenewal
  deriving DecidableEq, Repr

namespace Defect

/-- A word between single marks. -/
def marked (word : String) : String :=
  "\x27" ++ word ++ "\x27"

/-- What is missing at the end of base64, in words. -/
def base64Message : Text.Base64.Incomplete → String
  | .marks => "Incorrect padding"
  | .loneCharacter count =>
    "Invalid base64-encoded string: number of data characters (" ++ toString count ++
      ") cannot be 1 more than a multiple of 4"

/-- Places from one on: a single one, or the first and the last. -/
def positions (first count : Nat) : String :=
  if count ≤ 1 then toString first else toString first ++ "-" ++ toString (first + count - 1)

/-- Why octets are no UTF-8, in words. -/
def utf8Message (f : Text.Utf8Fault) : String :=
  let what := match f.octets with
    | [b] => "byte 0x" ++ String.ofList (Text.hex 2 b)
    | _ => "bytes"
  let reason := match f.reason with
    | .badStart => "invalid start byte"
    | .badContinuation => "invalid continuation byte"
    | .unfinished => "unexpected end of data"
  "\x27utf-8\x27 codec can\x27t decode " ++ what ++ " in position " ++
    positions f.position f.octets.length ++ ": " ++ reason

/-- A symbol by number. -/
def numbered : Text.Symbol → String
  | .half unit => String.ofList ('\\' :: 'u' :: Text.hex 4 unit)
  | .char c =>
    String.ofList (if c.toNat < 0x10000 then '\\' :: 'u' :: Text.hex 4 c.toNat
      else '\\' :: 'U' :: Text.hex 8 c.toNat)

/-- Which symbols an encoding lacks, and why, in words. -/
def unencodableMessage (encoding reason : String) (f : Unencodable) : String :=
  let what := match f.symbols with
    | [s] => "character " ++ marked (numbered s)
    | _ => "characters"
  marked encoding ++ " codec can\x27t encode " ++ what ++ " in position " ++
    positions f.position f.symbols.length ++ ": " ++ reason

/-- What cannot be used, in words. -/
def message : Defect → String
  | .noMember shape member => marked shape ++ " object has no attribute " ++ marked member
  | .notSearchable shape => "argument of type " ++ marked shape ++ " is not iterable"
  | .namedItem => "list indices must be integers or slices, not str"
  | .namedCharacter => "string indices must be integers, not \x27str\x27"
  | .notKeyed shape => marked shape ++ " object is not subscriptable"
  | .notSettable shape => marked shape ++ " object does not support item assignment"
  | .notIterable shape => marked shape ++ " object is not iterable"
  | .noField key => Text.quoted key
  | .notOctets shape =>
    "argument should be a bytes-like object or ASCII string, not " ++ marked shape
  | .notPath shape =>
    "join() argument must be str, bytes, or os.PathLike object, not " ++ marked shape
  | .notAddable shape => "unsupported operand type(s) for +: " ++ marked shape ++ " and \x27str\x27"
  | .notAppendable shape => "can only concatenate str (not \"" ++ shape ++ "\") to str"
  | .notSeconds shape => marked shape ++ " object cannot be interpreted as an integer"
  | .base64 fault => base64Message fault
  | .notAscii => "string argument should contain only ASCII characters"
  | .utf8 fault => utf8Message fault
  | .latin fault => unencodableMessage "latin-1" "ordinal not in range(256)" fault
  | .halves fault => unencodableMessage "utf-8" "surrogates not allowed" fault
  | .document refusal => refusal.message
  | .notNumber shown => "invalid literal for int() with base 10: " ++ shown
  | .longNumber digits => Json.longNumberMessage digits
  | .notDated shown refusal => refusal.message shown
  | .notMoment shown refusal => refusal.message shown
  | .notEpoch refusal => refusal.message
  | .dateBeyond => "date value out of range"
  | .offsetBeyond =>
    "offset must be a timedelta strictly between -timedelta(hours=24) and timedelta(hours=24)."
  | .noLength shape => "object of type " ++ marked shape ++ " has no len()"
  | .noWord => "list index out of range"
  | .missingFile path => "[Errno 2] No such file or directory: " ++ Text.quoted path
  | .directory path => "[Errno 21] Is a directory: " ++ Text.quoted path
  | .notDirectory path => "[Errno 20] Not a directory: " ++ Text.quoted path
  | .longName path => "[Errno 36] File name too long: " ++ Text.quoted path
  | .nullInPath => "embedded null byte"
  | .notStartable path => "[Errno 13] Permission denied: " ++ Text.quoted path
  | .noRenewal => "refresh token error, adal library not imported"

end Defect
end ClusterAccess
