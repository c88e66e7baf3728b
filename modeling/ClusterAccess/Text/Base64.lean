/-
  ClusterAccess.Text.Base64

  Octets as text with padding, in either of the two usual alphabets, and the
  lenient way back.

  Reading skips characters outside of the alphabet; the URL-safe one includes the
  standard one when it is read. A padding mark counts once its group of four
  holds two data characters; when data and marks fill the group, reading stops
  and the rest is ignored. A group that is left incomplete at the end is refused.
-/

namespace ClusterAccess.Text.Base64

/-- Which characters stand for the last two values. -/
inductive Alphabet
  /-- A plus sign and a slash. -/
  | standard
  /-- A dash and an underscore. -/
  | urlSafe
  deriving DecidableEq, Repr

/-! ## Writing -/

/-- The character of a six-bit value. -/
def digit (alphabet : Alphabet) (n : Nat) : Char :=
  if n < 26 then Char.ofNat (65 + n)
  else if n < 52 then Char.ofNat (71 + n)
  else if n < 62 then Char.ofNat (n - 4)
  else match alphabet with
    | .standard => if n = 62 then '+' else '/'
    | .urlSafe => if n = 62 then '-' else '_'

/-- Groups of three octets as four characters, the last one padded. -/
def encode (alphabet : Alphabet) : List Nat → List Char
  | [] => []
  | [a] => [digit alphabet (a / 4), digit alphabet (a % 4 * 16), '=', '=']
  | [a, b] =>
    [digit alphabet (a / 4), digit alphabet (a % 4 * 16 + b / 16), digit alphabet (b % 16 * 4), '=']
  | a :: b :: c :: rest =>
    digit alphabet (a / 4) :: digit alphabet (a % 4 * 16 + b / 16) ::
      digit alphabet (b % 16 * 4 + c / 64) :: digit alphabet (c % 64) :: encode alphabet rest

/-! ## Reading -/

/-- The value of a data character. -/
def value? (alphabet : Alphabet) (c : Char) : Option Nat :=
  if 'A' ≤ c ∧ c ≤ 'Z' then some (c.toNat - 65)
  else if 'a' ≤ c ∧ c ≤ 'z' then some (c.toNat - 71)
  else if '0' ≤ c ∧ c ≤ '9' then some (c.toNat + 4)
  else if c = '+' ∨ (c = '-' ∧ alphabet = .urlSafe) then some 62
  else if c = '/' ∨ (c = '_' ∧ alphabet = .urlSafe) then some 63
  else none

/-- How far a group of four has been read, with the bits that no octet holds yet. -/
inductive Group
  | empty
  | one (bits : Nat)
  | two (bits : Nat)
  | three (bits : Nat)

/-- How many padding marks complete the group; `none` where a mark is ignored. -/
def Group.marksOwed : Group → Option Nat
  | .empty => none
  | .one _ => none
  | .two _ => some 2
  | .three _ => some 1

/-- A data character in a group: the octet it completes, and the group after it. -/
def Group.push (n : Nat) : Group → Option Nat × Group
  | .empty => (none, .one n)
  | .one bits => (some (bits * 4 + n / 16), .two (n % 16))
  | .two bits => (some (bits * 16 + n / 4), .three (n % 4))
  | .three bits => (some (bits * 64 + n), .empty)

/-- What a text lacks that ends inside a group. -/
inductive Shortage
  /-- A single data character, which holds no octet. -/
  | loneCharacter
  /-- Padding marks. -/
  | marks
  deriving DecidableEq, Repr

/-- What is missing at the end of a text. -/
def Group.shortage? : Group → Option Shortage
  | .empty => none
  | .one _ => some .loneCharacter
  | .two _ => some .marks
  | .three _ => some .marks

/-- Reads on from inside a group behind `marks` padding marks: the octets, and what is missing
behind them. -/
def read (alphabet : Alphabet) : Group → Nat → List Char → List Nat × Option Shortage
  | group, _, [] => ([], group.shortage?)
  | group, marks, c :: rest =>
    if c = '=' then
      match group.marksOwed with
      | none => read alphabet group marks rest
      | some owed =>
        -- A group that has its marks ends all; what follows is not read.
        if owed ≤ marks + 1 then ([], none) else read alphabet group (marks + 1) rest
    else
      match value? alphabet c with
      -- Characters outside of the alphabet are passed over.
      | none => read alphabet group marks rest
      | some n =>
        match group.push n with
        | (none, next) => read alphabet next 0 rest
        | (some octet, next) =>
          let (octets, shortage) := read alphabet next 0 rest
          (octet :: octets, shortage)

/-- Why a text stands for no octets. -/
inductive Incomplete
  /-- The last of so many data characters stands alone in its group. -/
  | loneCharacter (count : Nat)
  /-- Padding marks are missing. -/
  | marks
  deriving DecidableEq, Repr

/-- The octets that a text stands for. -/
def decode (alphabet : Alphabet) (cs : List Char) : Except Incomplete (List Nat) :=
  match read alphabet .empty 0 cs with
  | (octets, none) => .ok octets
  | (octets, some .loneCharacter) => .error (.loneCharacter (octets.length / 3 * 4 + 1))
  | (_, some .marks) => .error .marks

/-- The octets that a text of the URL-safe alphabet stands for. -/
def decode? (cs : List Char) : Option (List Nat) :=
  (decode .urlSafe cs).toOption

end ClusterAccess.Text.Base64
