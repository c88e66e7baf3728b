/-
  ClusterAccess.Number.Shortest

  The text of a decimal after rounding to binary floating point of 53 bits: the
  fewest digits that round to the same binary number, the nearest such digits
  first. Everything is exact arithmetic on natural numbers.
-/
import ClusterAccess.Number.Binary

namespace ClusterAccess.Number

/-! ## The shortest digits that read back -/

/-- Whether `num / den` rounds to `b`. The lower half of the interval is half as wide where the
binary exponent changes. -/
def roundsTo (b : Binary) (num den : Nat) : Bool :=
  let narrow := b.mantissa = Nat.pow 2 52 ∧ leastExponent < b.exponent
  let (n, d) := scale2 num den (2 - b.exponent)
  let low := (4 * b.mantissa - if narrow then 1 else 2) * d
  let high := (4 * b.mantissa + 2) * d
  if b.mantissa % 2 = 0 then low ≤ n && n ≤ high else low < n && n < high

/-- The place of the first digit of `num / den`: the number lies from `10 ^ (place - 1)` on and
below `10 ^ place`. -/
def firstPlace (num den : Nat) : Int :=
  -- The guess from the binary places is near: the place lies from one below to two above.
  let guess : Int := ((num.log2 : Int) - den.log2) * 1233 / 4096
  let below (p : Int) : Bool := let (n, d) := scale10 num den (-p); n < d
  if below (guess - 1) then guess - 1
  else if below guess then guess
  else if below (guess + 1) then guess + 1
  else guess + 2

/-- The one of two neighbours on the grid `10 ^ place` that rounds to `b` and is nearest to it;
a tie goes to the even one. -/
def gridHit (b : Binary) (num den : Nat) (place : Int) : Option Nat :=
  let (n, d) := scale10 num den (-place)
  let lower := n / d
  let hits (k : Nat) : Bool := let (x, y) := scale10 k 1 place; roundsTo b x y
  -- No third number of the grid can be nearer than both.
  match hits lower, hits (lower + 1) with
  | false, false => none
  | true, false => some lower
  | false, true => some (lower + 1)
  | true, true => some (roundHalfEven n d)

/-- The first grid with a hit, trying `tries` numbers of digits from `count` on. -/
def shortestFrom (b : Binary) (num den : Nat) (first : Int) : Nat → Nat → Nat × Int
  | 0, count => (0, first - count)
  | tries + 1, count =>
    match gridHit b num den (first - count) with
    | some digits => (digits, first - count)
    | none => shortestFrom b num den first tries (count + 1)

/-- The fewest digits that round to `b`, with their power of ten. -/
def shortest (b : Binary) : Nat × Int :=
  let (num, den) := b.fraction
  shortestFrom b num den (firstPlace num den) 17 1

/-! ## Text -/

/-- How digits and the place of their point become a text. -/
structure RealStyle where
  /-- Points behind this place and up to place 16 are written without an exponent. -/
  leastPoint : Int
  /-- The least number of digits of an exponent. -/
  exponentWidth : Nat
  deriving DecidableEq, Repr

/-- The style of displayed values: `0.0001`, `1e-05` and `1e+16`. -/
def RealStyle.display : RealStyle := ⟨-4, 2⟩

/-- The style of written documents: `0.00001`, `1e-6` and `1e+16`. -/
def RealStyle.document : RealStyle := ⟨-5, 1⟩

/-- An exponent of ten in a style. -/
def exponentText (style : RealStyle) (e : Int) : List Char :=
  let digits := (toString e.natAbs).toList
  let sign := if e < 0 then '-' else '+'
  'e' :: sign :: List.replicate (style.exponentWidth - digits.length) '0' ++ digits

/-- Digits and the place of the decimal point, positional where the style has it so, else with one
digit before the point and an exponent. -/
def layOut (style : RealStyle) (digits : List Char) (point : Int) : List Char :=
  if style.leastPoint < point ∧ point ≤ 0 then
    "0.".toList ++ List.replicate (-point).toNat '0' ++ digits
  else if 0 < point ∧ point ≤ 16 then
    let whole := point.toNat
    if digits.length ≤ whole then
      digits ++ List.replicate (whole - digits.length) '0' ++ ".0".toList
    else digits.take whole ++ '.' :: digits.drop whole
  else
    let fraction := match digits with
      | [d] => [d]
      | d :: ds => d :: '.' :: ds
      | [] => []
    fraction ++ exponentText style (point - 1)

/-- Removes the zeros at the end of digits. -/
def dropTrailingZeros (digits : List Char) : List Char :=
  (digits.reverse.dropWhile (· = '0')).reverse

/-- The text of a binary number in the shortest form that reads back. -/
def binaryText (style : RealStyle) (b : Binary) : String :=
  if b.mantissa = 0 then "0.0"
  else
    let (digits, place) := shortest b
    let cs := (toString digits).toList
    String.ofList (layOut style (dropTrailingZeros cs) (place + cs.length))

/-- The text of a decimal that rounds to a finite number. -/
def finiteText? (style : RealStyle) (d : Decimal) : Option String :=
  d.rounded?.map fun b => (if d.isNegative then "-" else "") ++ binaryText style b

/-- The displayed text of a decimal. -/
def text (d : Decimal) : String :=
  match finiteText? .display d with
  | some s => s
  | none => if d = .notANumber then "nan" else if d.isNegative then "-inf" else "inf"

end ClusterAccess.Number
