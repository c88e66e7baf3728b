/-
  ClusterAccess.Json.Reader

  Documents as text to document values. The grammar is the usual one, with three
  additions: the numbers NaN, Infinity and -Infinity can be written, a repeated
  field counts with its last value, and both the digits of an integer and the
  nesting of lists and objects have a limit. White space is the space, the tab
  and the two line ends.

  The reader takes symbols, so that a text with half of a surrogate pair can
  stand where nobody reads it. Its first argument bounds the steps; twice the
  length of the text is always enough. Its second one is how many lists and
  objects may still be opened inside each other.
-/
import ClusterAccess.Json.Basic
import ClusterAccess.Json.Refusal

namespace ClusterAccess.Json

open Text (Symbol)

/-- What stands at the front of a text with what follows it, or why nothing does. A place is given
by what follows from there on. -/
abbrev Reading (α : Type) := Except (Refusal (List Symbol)) (α × List Symbol)

namespace Reading

/-- Something cannot stand at a place. -/
def misfit {α : Type} (what : Misfit) (place : List Symbol) : Reading α :=
  .error (.misplaced what place)

/-- Makes something of what was read. -/
def as {α β : Type} (f : α → β) (r : Reading α) : Reading β :=
  r.map fun (a, rest) => (f a, rest)

end Reading

/-! ## Texts -/

/-- A stretch of a text: one symbol, or a number that an escape gives. -/
inductive Piece
  | plain (s : Symbol)
  | unit (n : Nat)

/-- The character behind a backslash. -/
def escaped? : Char → Option Char
  | '"' => some '"'
  | '\\' => some '\\'
  | '/' => some '/'
  | 'b' => some '\x08'
  | 'f' => some '\x0c'
  | 'n' => some '\n'
  | 'r' => some '\r'
  | 't' => some '\t'
  | _ => none

/-- The number that four hexadecimal digits give. -/
def hexUnit? (a b c d : Symbol) : Option Nat := do
  let a ← Text.hexValue? (← a.char?)
  let b ← Text.hexValue? (← b.char?)
  let c ← Text.hexValue? (← c.char?)
  let d ← Text.hexValue? (← d.char?)
  pure (((a * 16 + b) * 16 + c) * 16 + d)

/-- The pieces up to the closing mark of a text that began at `start`, and what follows it. An
escape by number is not the last thing of all. -/
def readPieces (start : List Symbol) : List Symbol → Reading (List Piece)
  | [] => .misfit .openText start
  | .char '"' :: rest => .ok ([], rest)
  | .char '\\' :: .char 'u' :: a :: b :: c :: d :: rest =>
    match hexUnit? a b c d, rest with
    | none, _ | _, [] => .misfit .numberedEscape (.char 'u' :: a :: b :: c :: d :: rest)
    | some n, _ => (readPieces start rest).as (.unit n :: ·)
  | .char '\\' :: .char 'u' :: rest => .misfit .numberedEscape (.char 'u' :: rest)
  | .char '\\' :: s :: rest =>
    match s.char?.bind escaped? with
    | some c => (readPieces start rest).as (.plain (.char c) :: ·)
    | none => .misfit .escape (.char '\\' :: s :: rest)
  | s :: rest =>
    if s = .char '\\' then .misfit .openText start
    else if s.char?.any (·.toNat < 0x20) then .misfit .control (s :: rest)
    else (readPieces start rest).as (.plain s :: ·)

/-- Joins two escapes that give the halves of one character. -/
def joinPieces : List Piece → List Symbol
  | [] => []
  | .unit u :: .unit v :: rest =>
    if Text.isPair u v then .ofNat (Text.pairValue u v) :: joinPieces rest
    else .ofNat u :: joinPieces (.unit v :: rest)
  | .unit u :: rest => .ofNat u :: joinPieces rest
  | .plain s :: rest => s :: joinPieces rest

/-! ## Numbers -/

/-- The value of a decimal digit. -/
def digit? : Symbol → Option Nat
  | .char c => if '0' ≤ c ∧ c ≤ '9' then some (c.toNat - 48) else none
  | .half _ => none

/-- The digits at the front, and what follows them. -/
def digitRun : List Symbol → List Nat × List Symbol
  | [] => ([], [])
  | s :: rest =>
    match digit? s with
    | some d => (d :: (digitRun rest).1, (digitRun rest).2)
    | none => ([], s :: rest)

/-- The number that decimal digits give. -/
def ofDigits (digits : List Nat) : Nat :=
  digits.foldl (fun n d => n * 10 + d) 0

/-- The digits before the point: a leading zero stands alone. -/
def wholeDigits (symbols : List Symbol) : List Nat × List Symbol :=
  match digitRun symbols with
  | (0 :: _, _) => ([0], symbols.drop 1)
  | run => run

/-- The digits behind a point; without any the point is not part of the number. -/
def fractionDigits : List Symbol → List Nat × List Symbol
  | .char '.' :: rest =>
    match digitRun rest with
    | ([], _) => ([], .char '.' :: rest)
    | run => run
  | symbols => ([], symbols)

/-- Takes a sign off the front; `true` is minus. -/
def takeSign : List Symbol → Bool × List Symbol
  | .char '-' :: rest => (true, rest)
  | .char '+' :: rest => (false, rest)
  | symbols => (false, symbols)

/-- The exponent, if a complete one is written. -/
def exponentPart : List Symbol → Option Int × List Symbol
  | s :: rest =>
    if s = .char 'e' ∨ s = .char 'E' then
      match digitRun (takeSign rest).2 with
      | ([], _) => (none, s :: rest)
      | (digits, rest') =>
        let n : Int := ofDigits digits
        (some (if (takeSign rest).1 then -n else n), rest')
    else (none, s :: rest)
  | [] => (none, [])

/-- A number without its sign. The number began at `start`. -/
def readUnsigned (negative : Bool) (start symbols : List Symbol) : Reading Json :=
  match wholeDigits symbols with
  | ([], _) => .misfit .value start
  | (whole, rest) =>
    let (fraction, rest') := fractionDigits rest
    let (exponent, rest'') := exponentPart rest'
    -- A limit on digits is set to integers only.
    if fraction = [] ∧ exponent = none then
      if integerDigitLimit < whole.length then .error (.tooLong whole.length)
      else
        let n : Int := ofDigits whole
        .ok (.int (if negative then -n else n), rest'')
    else
      .ok (.real (.finite negative (ofDigits (whole ++ fraction))
        (exponent.getD 0 - fraction.length)), rest'')

/-! ## Values -/

/-- Takes the white space off the front. -/
def skipBlank : List Symbol → List Symbol
  | [] => []
  | s :: rest =>
    if s = .char ' ' ∨ s = .char '\t' ∨ s = .char '\n' ∨ s = .char '\r' then skipBlank rest
    else s :: rest

/-- Takes a word off the front. -/
def takeWord : List Char → List Symbol → Option (List Symbol)
  | [], rest => some rest
  | c :: cs, s :: rest => if s = .char c then takeWord cs rest else none
  | _ :: _, [] => none

/-- The words that are values. -/
def words : List (String × Json) := [
  ("null", .null), ("true", .bool true), ("false", .bool false),
  ("NaN", .real .notANumber), ("Infinity", .real (.infinite false)),
  ("-Infinity", .real (.infinite true))]

/-- A word or a number. -/
def readScalar (symbols : List Symbol) : Reading Json :=
  match words.findSome? fun w => (takeWord w.1.toList symbols).map fun rest => (w.2, rest) with
  | some found => .ok found
  | none =>
    match symbols with
    | .char '-' :: rest => readUnsigned true symbols rest
    | _ => readUnsigned false symbols symbols

mutual
/-- A value at the front. -/
def readValue : Nat → Nat → List Symbol → Reading Json
  | 0, _, symbols => .misfit .value symbols
  | _, _, [] => .misfit .value []
  | fuel + 1, room, s :: rest =>
    if s = .char '"' then
      (readPieces (s :: rest) rest).as fun pieces => ofSymbols (joinPieces pieces)
    else if s = .char '[' then
      -- The bracket is refused before anything behind it is looked at.
      match room, skipBlank rest with
      | 0, _ => .error (.tooDeep .array)
      | _, .char ']' :: rest => .ok (.array [], rest)
      | room + 1, rest => (readItems fuel room rest).as .array
    else if s = .char '\x7b' then
      match room, skipBlank rest with
      | 0, _ => .error (.tooDeep .object)
      | _, .char '\x7d' :: rest => .ok (.object [], rest)
      | room + 1, rest => (readFields fuel room [] rest).as ofNamed
    else readScalar (s :: rest)

/-- One or more items, up to the closing bracket. -/
def readItems : Nat → Nat → List Symbol → Reading (List Json)
  | 0, _, symbols => .misfit .value symbols
  | fuel + 1, room, symbols =>
    match readValue fuel room symbols with
    | .error refusal => .error refusal
    | .ok (item, rest) =>
      match skipBlank rest with
      | .char ']' :: rest => .ok ([item], rest)
      | .char ',' :: rest => (readItems fuel room (skipBlank rest)).as (item :: ·)
      | rest => .misfit .comma rest

/-- One or more fields behind those read so far, up to the closing brace. -/
def readFields : Nat → Nat → List (List Symbol × Json) → List Symbol →
    Reading (List (List Symbol × Json))
  | 0, _, _, symbols => .misfit .fieldName symbols
  | fuel + 1, room, fields, symbols =>
    match symbols with
    | .char '"' :: rest =>
      match readPieces symbols rest with
      | .error refusal => .error refusal
      | .ok (pieces, rest) =>
        match skipBlank rest with
        | .char ':' :: rest =>
          match readValue fuel room (skipBlank rest) with
          | .error refusal => .error refusal
          | .ok (value, rest) =>
            -- Of several fields with one name the last one counts, at the place of the first.
            let fields := setField (joinPieces pieces) value fields
            match skipBlank rest with
            | .char '\x7d' :: rest => .ok (fields, rest)
            | .char ',' :: rest => readFields fuel room fields (skipBlank rest)
            | rest => .misfit .comma rest
        | rest => .misfit .colon rest
    | _ => .misfit .fieldName symbols
end

/-- A document: one value with nothing but white space around it. -/
def readDocument (symbols : List Symbol) : Except (Refusal (List Symbol)) Json :=
  if symbols.head? = some (.char '\uFEFF') then .error (.misplaced .byteOrderMark symbols)
  else do
    let (value, rest) ← readValue (2 * symbols.length + 2) nestingLimit (skipBlank symbols)
    match skipBlank rest with
    | [] => .ok value
    | rest => .error (.misplaced .extra rest)

/-- The document that symbols hold, or why they hold none. -/
def read (symbols : List Symbol) : Except (Refusal Spot) Json :=
  (readDocument symbols).mapError (Refusal.map (Spot.ofRest symbols))

/-- The document that a text holds. -/
def parse? (s : String) : Option Json :=
  (read (s.toList.map .char)).toOption

end ClusterAccess.Json
