/-
  ClusterAccess.Timestamp.Dated

  Moments of UTC as a date and a time with a fraction, `2024-1-2 3:04:05.678`.
  Fields but for the year may leave out a zero in front, and a minute may have 62
  seconds. A first digit that is limited is one of ASCII; any other digit may
  belong to any script.
-/
import ClusterAccess.Text.Blank
import ClusterAccess.Text.Digit
import ClusterAccess.Timestamp.Parts

namespace ClusterAccess.Timestamp.Dated

/-- Why a text is no moment. -/
inductive Refusal
  /-- The text does not have the form. -/
  | form
  /-- Something follows the fraction. -/
  | leftover (rest : String)
  /-- The date lies beyond its range. -/
  | part (fault : OutOfRange)
  deriving DecidableEq, Repr

/-- Why a text, here quoted, is no moment. -/
def Refusal.message (quoted : String) : Refusal → String
  | .form =>
    "time data " ++ quoted ++ " does not match format \x27%Y-%m-%d %H:%M:%S.%f\x27"
  | .leftover rest => "unconverted data remains: " ++ rest
  | .part fault => fault.message

/-! ## Fields -/

/-- Whether characters are one digit of any script. -/
def isDigit : List Char → Bool
  | [c] => Text.isDecimal c
  | _ => false

/-- Whether characters are a digit of ASCII that is no zero. -/
def isOneToNine : List Char → Bool
  | [c] => '1' ≤ c && c ≤ '9'
  | _ => false

/-- Whether characters are a month. -/
def isMonth : List Char → Bool
  | ['1', c] => '0' ≤ c && c ≤ '2'
  | '0' :: rest => isOneToNine rest
  | cs => isOneToNine cs

/-- Whether characters are a day. A space may stand for the zero in front. -/
def isDay : List Char → Bool
  | ['3', c] => c == '0' || c == '1'
  | ['1', c] | ['2', c] => Text.isDecimal c
  | '0' :: rest | ' ' :: rest => isOneToNine rest
  | cs => isOneToNine cs

/-- Whether characters are an hour. -/
def isHour : List Char → Bool
  | ['2', c] => '0' ≤ c && c ≤ '3'
  | ['0', c] | ['1', c] => Text.isDecimal c
  | cs => isDigit cs

/-- Whether characters are a minute. -/
def isMinute : List Char → Bool
  | [c, d] => '0' ≤ c && c ≤ '5' && Text.isDecimal d
  | cs => isDigit cs

/-- Whether characters are a second. -/
def isSecond : List Char → Bool
  | ['6', c] => c == '0' || c == '1'
  | cs => isMinute cs

/-- The number of a field, up to the first character that ends it, if the field has its form. -/
def field? (has : List Char → Bool) (ends : Char → Bool) (cs : List Char) :
    Option (Nat × List Char) :=
  let field := cs.takeWhile fun c => !ends c
  if has field ∧ field.length < cs.length then
    some (Text.decimalNumber field, cs.drop (field.length + 1))
  else none

/-- The number of a year, and what follows the dash behind it. -/
def year? (cs : List Char) : Option (Nat × List Char) :=
  field? (fun year => year.length = 4 ∧ year.all Text.isDecimal) (· = '-') cs

/-- The number of a day, and what follows the white space behind it. -/
def day? (cs : List Char) : Option (Nat × List Char) :=
  let width := if cs.head? = some ' ' then 1 else 0
  let field := cs.take width ++ (cs.drop width).takeWhile fun c => !Text.isSpacing c
  if isDay field ∧ field.length < cs.length then
    some (Text.decimalNumber field, (cs.drop field.length).dropWhile Text.isSpacing)
  else none

/-- The parts that a text gives, without the fraction, and what stands behind the point. -/
def written? (cs : List Char) : Option (Parts × List Char) := do
  let (year, cs) ← year? cs
  let (month, cs) ← field? isMonth (· = '-') cs
  let (day, cs) ← day? cs
  let (hour, cs) ← field? isHour (· = ':') cs
  let (minute, cs) ← field? isMinute (· = ':') cs
  let (second, cs) ← field? isSecond (· = '.') cs
  pure ({ year, month, day, hour, minute, second }, cs)

/-! ## Moments -/

/-- Reads a moment. Its fraction has one to six digits of ASCII, and does not count. -/
def read (s : String) : Except Refusal Parts :=
  match written? s.toList with
  | none => .error .form
  | some (p, cs) =>
    let digits := (cs.take 6).takeWhile Char.isDigit
    if digits = [] then .error .form
    else if digits.length < cs.length then
      .error (.leftover (String.ofList (cs.drop digits.length)))
    else match p.dateFault? with
      | some fault => .error (.part fault)
      | none => .ok p

end ClusterAccess.Timestamp.Dated
