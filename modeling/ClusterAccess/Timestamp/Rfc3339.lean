/-
  ClusterAccess.Timestamp.Rfc3339

  Moments in the form of RFC 3339: `2024-01-02T03:04:05.678+01:00`. A space may
  stand for the letter between date and time, a comma for the point, and an
  offset may be missing, which is one of zero. Digits are those of any script.
-/
import ClusterAccess.Text.Blank
import ClusterAccess.Text.Digit
import ClusterAccess.Timestamp.Parts

namespace ClusterAccess.Timestamp.Rfc3339

/-- Why a text is no moment. -/
inductive Refusal
  /-- The text does not have the form. -/
  | form
  /-- A part lies beyond its range. -/
  | part (fault : OutOfRange)
  deriving DecidableEq, Repr

/-- Why a text, here quoted, is no moment. -/
def Refusal.message (quoted : String) : Refusal → String
  | .form =>
    "Invalid RFC3339 datetime: " ++ quoted ++
      " (expected YYYY-MM-DDTHH:MM:SS[.frac][Z|±HH:MM])"
  | .part fault =>
    "Invalid date/time values in RFC3339 string " ++ quoted ++ ": " ++ fault.message

/-! ## Pieces -/

/-- A number of exactly `width` digits at the front, and what follows it. -/
def number? (width : Nat) (cs : List Char) : Option (Nat × List Char) :=
  let digits := cs.take width
  if digits.length = width ∧ digits.all Text.isDecimal then
    some (Text.decimalNumber digits, cs.drop width)
  else none

/-- What follows a mark, if one of some marks stands at the front. -/
def mark? (marks : List Char) : List Char → Option (List Char)
  | c :: cs => if marks.contains c then some cs else none
  | [] => none

/-- The microseconds of a fraction with a point in front, and what follows it. Without a fraction
there are none. The fraction and their number are rounded to binary numbers. -/
def fraction? (cs : List Char) : Option (Nat × List Char) :=
  match mark? ['.', ','] cs with
  | none => some (0, cs)
  | some rest => do
    let digits := rest.takeWhile Text.isDecimal
    if digits = [] then failure
    let (num, den) ← Number.multiple? (Text.decimalNumber digits) (Nat.pow 10 digits.length) 1000000
    pure (num / den, rest.drop digits.length)

/-- The seconds of an offset, which is the rest of a text. The minutes of no hours lie ahead. -/
def offset? : List Char → Option Int
  | [] => some 0
  | ['Z'] | ['z'] | [' '] => some 0
  | sign :: cs => do
    if sign ≠ '+' ∧ sign ≠ '-' then failure
    let (hours, rest) ← (number? 2 cs).or (number? 1 cs)
    let (minutes, rest) ← number? 2 (← mark? [':'] rest)
    if rest ≠ [] then failure
    let seconds : Int := (hours * 3600 + minutes * 60 : Nat)
    pure (if sign = '-' ∧ hours ≠ 0 then -seconds else seconds)

/-- The parts that a text gives, and the seconds of its offset. -/
def written? (cs : List Char) : Option (Parts × Int) := do
  let (year, cs) ← number? 4 cs
  let (month, cs) ← number? 2 (← mark? ['-'] cs)
  let (day, cs) ← number? 2 (← mark? ['-'] cs)
  let (hour, cs) ← number? 2 (← mark? [' ', 'T', 't'] cs)
  let (minute, cs) ← number? 2 (← mark? [':'] cs)
  let (second, cs) ← number? 2 (← mark? [':'] cs)
  let (microsecond, cs) ← fraction? cs
  let offset ← offset? cs
  pure (⟨year, month, day, hour, minute, second, microsecond⟩, offset)

/-! ## Moments -/

/-- Reads a moment with white space around it: its parts, and the seconds of its offset. -/
def read (s : String) : Except Refusal (Parts × Int) :=
  match written? (Text.trimmedOf Text.isSpacing s.toList) with
  | none => .error .form
  | some (p, offset) =>
    match p.fault? with
    | some fault => .error (.part fault)
    | none => .ok (p, offset)

end ClusterAccess.Timestamp.Rfc3339
