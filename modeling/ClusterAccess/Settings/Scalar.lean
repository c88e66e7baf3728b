/-
  ClusterAccess.Settings.Scalar

  Single values as a configuration gives them: as values of their own type, or
  as texts from the environment. Texts are read leniently; nothing else becomes
  a text.
-/
import ClusterAccess.FieldFault
import ClusterAccess.Json.Basic
import ClusterAccess.Settings.Numeral

namespace ClusterAccess.Scalar

/-- A value of a field, or what is wrong with it. -/
abbrev Outcome (α : Type) := Except FieldProblem α

/-! ## Texts -/

/-- A value that has to be a text. -/
def text (j : Json) : Outcome String :=
  match j.looseText? with
  | some s => .ok s
  | none => .error .notText

/-- A value that has to be a text or `null`. -/
def text? : Json → Outcome (Option String)
  | .null => .ok none
  | j => some <$> text j

/-! ## Integers -/

/-- Whether an integer fits into 64 bits with a sign. -/
def fits (i : Int) : Bool :=
  -(Nat.pow 2 63 : Int) ≤ i && i < Nat.pow 2 63

/-- The integer that a number with a point is equal to. The least one of 64 bits is left out. -/
def integerOfReal (d : Decimal) : Outcome Int :=
  match d.toInt? with
  | some i => if fits i && fits (-i) then .ok i else .error .oversizedInteger
  | none => .error (if d.isFinite then .fractional else .notFinite)

/-- The integer that a text is written for. -/
def integerOfText (s : String) : Outcome Int :=
  (Numeral.read s).mapError fun
    | .unreadable => .unreadableInteger
    | .tooLong => .oversizedInteger

/-- A value that has to be an integer. -/
def integer : Json → Outcome Int
  | .int i => .ok i
  | .bool b => .ok (if b then 1 else 0)
  | .real d => integerOfReal d
  | .text s => integerOfText s
  | .brokenText _ => .error .brokenText
  | _ => .error .notInteger

/-- An integer above zero. -/
def positive (j : Json) : Outcome Nat := do
  let i ← integer j
  if 0 < i then pure i.toNat else throw .notAbove

/-- An integer that is not below zero. -/
def natural (j : Json) : Outcome Nat := do
  let i ← integer j
  if 0 ≤ i then pure i.toNat else throw .below

/-! ## Truth values -/

/-- The truth value of a word, of which case does not matter. -/
def truthOfText? (s : String) : Option Bool :=
  let word := s.toLower
  if ["true", "t", "yes", "y", "on", "1"].contains word then some true
  else if ["false", "f", "no", "n", "off", "0"].contains word then some false
  else none

/-- The truth value of zero and one. -/
def truthOfInt (i : Int) : Outcome Bool :=
  if i = 0 then .ok false
  else if i = 1 then .ok true
  else .error (if fits i then .unreadableBoolean else .notBoolean)

/-- A value that has to be a truth value. -/
def truth : Json → Outcome Bool
  | .bool b => .ok b
  | .int i => truthOfInt i
  | .real d =>
    match integerOfReal d with
    | .ok i => truthOfInt i
    | .error _ => .error .notBoolean
  | .text s =>
    match truthOfText? s with
    | some b => .ok b
    | none => .error .unreadableBoolean
  | .brokenText _ => .error .brokenText
  | _ => .error .notBoolean

/-- A document of a scalar is read back. -/
theorem integer_int (i : Int) : integer (.int i) = .ok i := rfl

theorem truth_bool (b : Bool) : truth (.bool b) = .ok b := rfl

end ClusterAccess.Scalar
