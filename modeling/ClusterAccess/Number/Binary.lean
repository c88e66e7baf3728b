/-
  ClusterAccess.Number.Binary

  Binary floating point of 53 bits: the number nearest to a fraction, and what a
  decimal is after rounding to it. Everything is exact arithmetic on natural
  numbers.
-/
import ClusterAccess.Number.Decimal

namespace ClusterAccess

namespace Number

/-! ## Rounding to 53 bits -/

/-- The quotient `num / den`, rounded to the nearest integer, a half to the even one. -/
def roundHalfEven (num den : Nat) : Nat :=
  let q := num / den
  let r := num % den
  if 2 * r < den then q
  else if den < 2 * r then q + 1
  else q + q % 2

/-- The quotient `num / den`, rounded to the nearest integer, a half to the greater one. -/
def roundHalfUp (num : Int) (den : Nat) : Int :=
  (2 * num + den) / (2 * den : Nat)

/-- A fraction times a power of two, as a fraction. -/
def scale2 (num den : Nat) (e : Int) : Nat × Nat :=
  if 0 ≤ e then (num * Nat.pow 2 e.toNat, den) else (num, den * Nat.pow 2 (-e).toNat)

/-- A fraction times a power of ten, as a fraction. -/
def scale10 (num den : Nat) (e : Int) : Nat × Nat :=
  if 0 ≤ e then (num * Nat.pow 10 e.toNat, den) else (num, den * Nat.pow 10 (-e).toNat)

/-- `mantissa · 2 ^ exponent`, with a mantissa below `2 ^ 53`. -/
structure Binary where
  mantissa : Nat
  exponent : Int
  deriving DecidableEq, Repr

/-- The least exponent of a binary number. -/
def leastExponent : Int := -1074

/-- The exponent that gives `num / den` a mantissa of 53 bits, or the least one. -/
def binaryExponent (num den : Nat) : Int :=
  let guess : Int := (num.log2 : Int) - den.log2 - 52
  let (n, d) := scale2 num den (-guess)
  max leastExponent
    (if n < d * Nat.pow 2 52 then guess - 1 else if d * Nat.pow 2 53 ≤ n then guess + 1 else guess)

/-- The binary number nearest to a positive fraction; `none` beyond the largest. -/
def nearest (num den : Nat) : Option Binary :=
  let e := binaryExponent num den
  let (n, d) := scale2 num den (-e)
  let m := roundHalfEven n d
  let b : Binary := if m = Nat.pow 2 53 then ⟨Nat.pow 2 52, e + 1⟩ else ⟨m, e⟩
  if 971 < b.exponent then none else some b

/-- Whether an integer lies beyond the largest binary number. -/
def isBeyond (i : Int) : Bool :=
  i ≠ 0 && (nearest i.natAbs 1).isNone

/-- A binary number as a fraction. -/
def Binary.fraction (b : Binary) : Nat × Nat :=
  scale2 b.mantissa 1 b.exponent

/-- The integer that a binary number is equal to, if it is one. -/
def Binary.toNat? (b : Binary) : Option Nat :=
  let (num, den) := b.fraction
  if num % den = 0 then some (num / den) else none

/-- The binary number nearest to a fraction, and the one nearest to a multiple of it, as a
fraction. -/
def multiple? (num den factor : Nat) : Option (Nat × Nat) := do
  let (num, den) := (← nearest num den).fraction
  pure (← nearest (num * factor) den).fraction

end Number

namespace Decimal

/-! ## Decimals after rounding -/

/-- Whether digits with a power of ten are too small for any binary number but zero: they lie below
`10 ^ -400`. -/
def vanishes (digits : Nat) (exponent : Int) : Bool :=
  digits == 0 || (digits.log2 + 1 : Nat) + exponent < -400

/-- What a decimal without its sign rounds to; `none` for values beyond the finite ones. -/
def rounded? : Decimal → Option Number.Binary
  | .finite _ digits exponent =>
    if vanishes digits exponent then some ⟨0, Number.leastExponent⟩
    else if 400 < exponent then none
    else
      let (num, den) := Number.scale10 digits 1 exponent
      Number.nearest num den
  | _ => none

/-- Whether a decimal has a minus sign. -/
def isNegative : Decimal → Bool
  | .finite negative _ _ => negative
  | .infinite negative => negative
  | .notANumber => false

/-- Whether a decimal rounds to zero of either sign. -/
def isZero (d : Decimal) : Bool :=
  d.rounded?.any (·.mantissa == 0)

/-- Whether a decimal rounds to a finite number. -/
def isFinite (d : Decimal) : Bool :=
  d.rounded?.isSome

/-- The integer that a decimal rounds to, if it rounds to one. -/
def toInt? (d : Decimal) : Option Int :=
  (d.rounded?.bind Number.Binary.toNat?).map fun n => if d.isNegative then -(n : Int) else n

/-- What a decimal rounds to, as a fraction. -/
def fraction? (d : Decimal) : Option (Int × Nat) :=
  d.rounded?.map fun b =>
    let (num, den) := b.fraction
    (if d.isNegative then -(num : Int) else num, den)

end Decimal
end ClusterAccess
