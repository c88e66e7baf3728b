/-
  ClusterAccess.Settings.Numeral

  Integers as the texts of a configuration write them. The plain form is a minus
  sign, if there is one, and digits of which the first is no zero unless it is
  alone. A text of any other form is cleaned of the marks that change nothing:
  white space around it, a plus sign, zeros in front, a fraction of zeros, and
  single underscores between characters.
-/
import ClusterAccess.Text.Blank

namespace ClusterAccess.Numeral

/-- Why a text gives no integer. -/
inductive Refusal
  /-- No integer is written so. -/
  | unreadable
  /-- The integer has too many digits. -/
  | tooLong
  deriving DecidableEq, Repr

/-- The most characters that a plain form may have. -/
def limit : Nat := 4300

/-- The number that decimal digits give. -/
def ofDigits (digits : List Char) : Nat :=
  digits.foldl (fun n c => n * 10 + (c.toNat - 48)) 0

/-! ## The plain form -/

/-- Reads digits behind a sign of some width. Too many of them are too many whatever follows. -/
def readDigits (signWidth : Nat) (cs : List Char) : Except Refusal Nat :=
  let run := cs.takeWhile Char.isDigit
  if cs = ['0'] then .ok 0
  else if run.head?.all (· = '0') then .error .unreadable
  else if limit < signWidth + run.length then .error .tooLong
  else if run = cs then .ok (ofDigits run)
  else .error .unreadable

/-- Reads a plain form. -/
def readPlain : List Char → Except Refusal Int
  | '-' :: cs => (readDigits 1 cs).map fun n => -(n : Int)
  | cs => (readDigits 0 cs).map Int.ofNat

/-! ## Cleaning -/

/-- Whether a character begins a plain form that is more than zero. -/
def opens (c : Char) : Bool :=
  c == '-' || (c.isDigit && c != '0')

/-- Drops zeros and underscores behind a zero, up to where a plain form begins. In front of a point,
and at the end, the last character stays. -/
def skipZeros (last : Char) : List Char → Option (List Char)
  | [] => some [last]
  | c :: cs =>
    if c = '0' ∨ c = '_' then skipZeros c cs
    else if opens c then some (c :: cs)
    else if c = '.' then some (last :: c :: cs)
    else none

/-- Drops zeros in front. -/
def dropZeros : List Char → Option (List Char)
  | [] => none
  | c :: cs => if c = '0' then skipZeros c cs else if opens c then some (c :: cs) else none

/-- Drops a fraction of one or more zeros. -/
def dropFraction (cs : List Char) : List Char :=
  match cs.dropWhile (· ≠ '.') with
  | '.' :: '0' :: rest => if rest.all (· = '0') then cs.takeWhile (· ≠ '.') else cs
  | _ => cs

/-- Whether each underscore stands alone between two characters. -/
def separates : List Char → Bool
  | [] => true
  | ['_'] => false
  | '_' :: '_' :: _ => false
  | _ :: cs => separates cs

/-- Drops underscores, if each stands alone between two characters. -/
def dropUnderscores (cs : List Char) : Option (List Char) :=
  if cs.head? = some '_' ∨ !separates cs then none else some (cs.filter (· ≠ '_'))

/-- A text that has no sign in front, without the marks that change nothing, if they stand where
they may. -/
def cleanUnsigned (cs : List Char) : Option (List Char) :=
  ((dropZeros cs).map dropFraction).bind dropUnderscores

/-- A text without the marks that change nothing, if they stand where they may. A plus sign is one
of them, and no other sign follows it; a minus sign is kept. -/
def clean (cs : List Char) : Option (List Char) :=
  match Text.trimmed cs with
  | '+' :: '-' :: _ => none
  | '+' :: rest => cleanUnsigned rest
  | '-' :: rest => (cleanUnsigned rest).map ('-' :: ·)
  | rest => cleanUnsigned rest

/-! ## Reading -/

/-- The integer that a text is written for. -/
def read (s : String) : Except Refusal Int :=
  match readPlain s.toList with
  | .error .unreadable =>
    match clean s.toList with
    | some cs => readPlain cs
    | none => .error .unreadable
  | outcome => outcome

end ClusterAccess.Numeral
