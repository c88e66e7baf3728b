/-
  ClusterAccess.Json.Same

  When two document values are the same: numbers and truth values are compared by
  what they are worth, objects without regard to the order of their fields. The
  value that is no number differs from every value, and so does an object with
  half of a surrogate pair in a name.
-/
import ClusterAccess.Json.Basic

namespace ClusterAccess.Json

/-- A number as a fraction: the sign, the numerator and the denominator. Truth values are worth
zero and one. -/
def worth? : Json → Option (Bool × Nat × Nat)
  | .bool b => some (false, b.toNat, 1)
  | .int i => some (i < 0, i.natAbs, 1)
  | .real d =>
    d.rounded?.map fun b => (d.isNegative && b.mantissa ≠ 0, b.fraction)
  | _ => none

/-- Whether two fractions with signs are equal. -/
def equalWorth (a b : Bool × Nat × Nat) : Bool :=
  a.1 == b.1 && a.2.1 * b.2.2 == b.2.1 * a.2.2

/-- Whether a number is less than another one. -/
def isLess (a b : Json) : Bool :=
  let signed (x : Bool × Nat × Nat) : Int := if x.1 then -(x.2.1 : Int) else x.2.1
  match a.worth?, b.worth? with
  | some x, some y => signed x * y.2.2 < signed y * x.2.2
  | _, _ => false

/-- Whether two values that hold no others are the same. -/
def sameScalar (a b : Json) : Bool :=
  match a, b with
  | .null, .null => true
  | .text s, .text t => s == t
  | .brokenText s, .brokenText t => s == t
  | .real (.infinite m), .real (.infinite n) => m == n
  | a, b =>
    match a.worth?, b.worth? with
    | some x, some y => equalWorth x y
    | _, _ => false

mutual
/-- Whether two values are the same. -/
def same : Json → Json → Bool
  | .array xs, .array ys => sameItems xs ys
  | .object xs, .object ys => xs.length == ys.length && sameFields xs ys
  | a, b => sameScalar a b

/-- Whether two lists hold the same values. -/
def sameItems : List Json → List Json → Bool
  | [], [] => true
  | x :: xs, y :: ys => same x y && sameItems xs ys
  | _, _ => false

/-- Whether each field has the same value in another list of fields. -/
def sameFields : List (String × Json) → List (String × Json) → Bool
  | [], _ => true
  | (key, value) :: rest, others =>
    (match fieldOf? key others with
      | some other => same value other
      | none => false) && sameFields rest others
end

end ClusterAccess.Json
