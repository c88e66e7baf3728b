/-
  ClusterAccess.Text.Utf

  Octets to characters and back. Octets are natural numbers below 256. A decoded
  text is a list of symbols: characters, and single halves of surrogate pairs,
  which no character stands for but which may pass through a text that nobody
  reads.

  `decode?` recognises the encoding by a byte order mark, or by where the zero
  octets of the first four stand; without either it reads UTF-8.
-/

namespace ClusterAccess.Text

/-! ## Symbols -/

/-- A character, or half of a surrogate pair. -/
inductive Symbol
  | char (c : Char)
  | half (unit : Nat)
  deriving DecidableEq, Repr, Inhabited

namespace Symbol

/-- The symbol of a code point. -/
def ofNat (n : Nat) : Symbol :=
  if n.isValidChar then .char (Char.ofNat n) else .half n

/-- The character of a symbol, if it is one. -/
def char? : Symbol → Option Char
  | .char c => some c
  | .half _ => none

end Symbol

/-- The characters of symbols, if no symbol is half of a pair. -/
def wholeText? : List Symbol → Option (List Char)
  | [] => some []
  | .half _ :: _ => none
  | .char c :: rest => (c :: ·) <$> wholeText? rest

/-- Whether two numbers are the halves of one character. -/
def isPair (u v : Nat) : Bool :=
  (0xD800 ≤ u && u < 0xDC00) && (0xDC00 ≤ v && v < 0xE000)

/-- The code point of a pair. -/
def pairValue (u v : Nat) : Nat :=
  0x10000 + (u - 0xD800) * 1024 + (v - 0xDC00)

/-- The characters of symbols. Halves next to each other become the character that they are of, and
the replacement character stands for any other half. -/
def joinHalves : List Symbol → List Char
  | [] => []
  | .char c :: rest => c :: joinHalves rest
  | .half u :: .half v :: rest =>
    if isPair u v then Char.ofNat (pairValue u v) :: joinHalves rest
    else '\uFFFD' :: joinHalves (.half v :: rest)
  | .half _ :: rest => '\uFFFD' :: joinHalves rest

/-- Symbols as a text. -/
def replaceHalves (symbols : List Symbol) : String :=
  String.ofList (joinHalves symbols)

theorem wholeText?_map_char (cs : List Char) : wholeText? (cs.map .char) = some cs := by
  induction cs with
  | nil => rfl
  | cons c cs ih => simp [wholeText?, ih]

/-! ## UTF-8 -/

/-- The octets of one character. -/
def utf8Char (c : Char) : List Nat :=
  let n := c.toNat
  if n < 0x80 then [n]
  else if n < 0x800 then [0xC0 + n / 64, 0x80 + n % 64]
  else if n < 0x10000 then [0xE0 + n / 4096, 0x80 + n / 64 % 64, 0x80 + n % 64]
  else [0xF0 + n / 262144, 0x80 + n / 4096 % 64, 0x80 + n / 64 % 64, 0x80 + n % 64]

/-- The octets of a text. -/
def utf8 (cs : List Char) : List Nat :=
  cs.flatMap utf8Char

/-- A character whose first octets have been read. -/
structure Utf8Pending where
  /-- How many octets are still to come. -/
  owed : Nat
  /-- The bits read so far. -/
  value : Nat
  /-- The least octet that may come next. -/
  low : Nat
  /-- The greatest octet that may come next. -/
  high : Nat

/-- What a first octet above the ASCII range opens. A first octet of 0xED may be followed by
halves of surrogate pairs. -/
def utf8Lead? (b : Nat) : Option Utf8Pending :=
  if 0xC2 ≤ b ∧ b ≤ 0xDF then some ⟨1, b - 0xC0, 0x80, 0xBF⟩
  else if b = 0xE0 then some ⟨2, 0, 0xA0, 0xBF⟩
  else if 0xE1 ≤ b ∧ b ≤ 0xEF then some ⟨2, b - 0xE0, 0x80, 0xBF⟩
  else if b = 0xF0 then some ⟨3, 0, 0x90, 0xBF⟩
  else if 0xF1 ≤ b ∧ b ≤ 0xF3 then some ⟨3, b - 0xF0, 0x80, 0xBF⟩
  else if b = 0xF4 then some ⟨3, 4, 0x80, 0x8F⟩
  else none

/-- Reads UTF-8 from between characters (`none`) or inside one. -/
def readUtf8 : Option Utf8Pending → List Nat → Option (List Symbol)
  | none, [] => some []
  | some _, [] => none
  | none, b :: rest =>
    if b < 0x80 then (Symbol.ofNat b :: ·) <$> readUtf8 none rest
    else match utf8Lead? b with
      | none => none
      | some p => readUtf8 (some p) rest
  | some p, b :: rest =>
    if p.low ≤ b ∧ b ≤ p.high then
      if p.owed ≤ 1 then (Symbol.ofNat (p.value * 64 + (b - 0x80)) :: ·) <$> readUtf8 none rest
      else readUtf8 (some ⟨p.owed - 1, p.value * 64 + (b - 0x80), 0x80, 0xBF⟩) rest
    else none

/-! ## Faults of UTF-8 -/

/-- Why octets are no UTF-8. -/
inductive Utf8Reason
  /-- No character begins so. -/
  | badStart
  /-- A character that has begun cannot go on so. -/
  | badContinuation
  /-- A character has begun and does not end. -/
  | unfinished
  deriving DecidableEq, Repr

/-- The first place where octets are no UTF-8: the octets that have begun a character in vain. -/
structure Utf8Fault where
  position : Nat
  octets : List Nat
  reason : Utf8Reason
  deriving DecidableEq, Repr

/-- Looks for a fault, from between characters (`none`) or inside one, of which the octets are
given last first. Halves of surrogate pairs are no characters here. -/
def findUtf8Fault (position : Nat) : Option (Utf8Pending × List Nat) → List Nat → Option Utf8Fault
  | none, [] => none
  | some (_, begun), [] => some ⟨position, begun.reverse, .unfinished⟩
  | none, b :: rest =>
    if b < 0x80 then findUtf8Fault (position + 1) none rest
    else match utf8Lead? b with
      | none => some ⟨position, [b], .badStart⟩
      | some p =>
        -- Behind this lead stand the halves of pairs.
        let p := if b = 0xED then { p with high := 0x9F } else p
        findUtf8Fault position (some (p, [b])) rest
  | some (p, begun), b :: rest =>
    if p.low ≤ b ∧ b ≤ p.high then
      if p.owed ≤ 1 then findUtf8Fault (position + begun.length + 1) none rest
      else findUtf8Fault position (some (⟨p.owed - 1, 0, 0x80, 0xBF⟩, b :: begun)) rest
    else some ⟨position, begun.reverse, .badContinuation⟩

/-- The first fault of octets that are read as UTF-8. -/
def utf8Fault? (octets : List Nat) : Option Utf8Fault :=
  findUtf8Fault 0 none octets

/-! ## UTF-16 and UTF-32 -/

/-- Pairs of octets as numbers; `none` if one octet is left over. -/
def units16 (bigEndian : Bool) : List Nat → Option (List Nat)
  | [] => some []
  | [_] => none
  | a :: b :: rest =>
    ((if bigEndian then a * 256 + b else b * 256 + a) :: ·) <$> units16 bigEndian rest

/-- Joins the halves of surrogate pairs that stand next to each other. -/
def joinUnits : List Nat → List Symbol
  | [] => []
  | [u] => [.ofNat u]
  | u :: v :: rest =>
    if isPair u v then .ofNat (pairValue u v) :: joinUnits rest
    else .ofNat u :: joinUnits (v :: rest)

/-- Groups of four octets as symbols; `none` if octets are left over or a number is too large. -/
def readUtf32 (bigEndian : Bool) : List Nat → Option (List Symbol)
  | [] => some []
  | a :: b :: c :: d :: rest =>
    let n := if bigEndian then ((a * 256 + b) * 256 + c) * 256 + d
      else ((d * 256 + c) * 256 + b) * 256 + a
    if n ≤ 0x10FFFF then (Symbol.ofNat n :: ·) <$> readUtf32 bigEndian rest else none
  | _ => none

/-- Reads UTF-16. -/
def readUtf16 (bigEndian : Bool) (octets : List Nat) : Option (List Symbol) :=
  joinUnits <$> units16 bigEndian octets

/-! ## Recognition -/

/-- An encoding and the octets behind its mark. -/
inductive Encoded
  | utf8 (octets : List Nat)
  | utf16 (bigEndian : Bool) (octets : List Nat)
  | utf32 (bigEndian : Bool) (octets : List Nat)

/-- The encoding by the place of zero octets, for a text that begins with ASCII. -/
def recognizeUnmarked (octets : List Nat) : Encoded :=
  match octets with
  | a :: b :: c :: d :: _ =>
    if a = 0 then (if b = 0 then .utf32 true octets else .utf16 true octets)
    else if b = 0 then
      (if c = 0 ∧ d = 0 then .utf32 false octets else .utf16 false octets)
    else .utf8 octets
  | [a, b] =>
    if a = 0 then .utf16 true octets
    else if b = 0 then .utf16 false octets
    else .utf8 octets
  | _ => .utf8 octets

/-- The encoding by its byte order mark, else by the place of zero octets. -/
def recognize (octets : List Nat) : Encoded :=
  match octets with
  | 0 :: 0 :: 0xFE :: 0xFF :: rest => .utf32 true rest
  | 0xFF :: 0xFE :: 0 :: 0 :: rest => .utf32 false rest
  | 0xFE :: 0xFF :: rest => .utf16 true rest
  | 0xFF :: 0xFE :: rest => .utf16 false rest
  | 0xEF :: 0xBB :: 0xBF :: rest => .utf8 rest
  | _ => recognizeUnmarked octets

/-- The symbols of a text in any of the recognised encodings. -/
def decode? (octets : List Nat) : Option (List Symbol) :=
  match recognize octets with
  | .utf8 rest => readUtf8 none rest
  | .utf16 bigEndian rest => readUtf16 bigEndian rest
  | .utf32 bigEndian rest => readUtf32 bigEndian rest

end ClusterAccess.Text
