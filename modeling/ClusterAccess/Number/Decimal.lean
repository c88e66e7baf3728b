/-
  ClusterAccess.Number.Decimal

  Real numbers as a document writes them: a sign, digits and a power of ten, or
  one of the three values beyond the finite ones.
-/

namespace ClusterAccess

/-- A number with a fraction or an exponent. -/
inductive Decimal
  /-- `± digits · 10 ^ exponent`. -/
  | finite (negative : Bool) (digits : Nat) (exponent : Int)
  | infinite (negative : Bool)
  | notANumber
  deriving DecidableEq, Repr, Inhabited

end ClusterAccess
