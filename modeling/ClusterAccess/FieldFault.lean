/-
  ClusterAccess.FieldFault

  What is wrong with the fields of a value, and a way to read several fields
  that reports all of them: `Validated` is `Except` that goes on after a fault.
-/

namespace ClusterAccess

/-- What is wrong with one field. -/
inductive FieldProblem
  /-- Not given, though it has to be. -/
  | missing
  /-- Not a text. -/
  | notText
  /-- A text with half of a surrogate pair in it. -/
  | brokenText
  /-- Not the name of a member of a closed set. -/
  | notMember
  /-- Not a set of fields. -/
  | notRecord
  /-- Not an object of free keys. -/
  | notMapping
  /-- Not one of the texts that are allowed. -/
  | notChoice
  /-- Nothing that a moment could be read from. -/
  | notMoment
  /-- A number that no moment is written as. -/
  | unreadableMoment
  /-- Nothing that an integer could be read from. -/
  | notInteger
  /-- A text that no integer is written as. -/
  | unreadableInteger
  /-- An integer beyond what is read. -/
  | oversizedInteger
  /-- A number without a finite value. -/
  | notFinite
  /-- A number with a fraction. -/
  | fractional
  /-- Not above the bound. -/
  | notAbove
  /-- Below the bound. -/
  | below
  /-- Nothing that a truth value could be read from. -/
  | notBoolean
  /-- A text or number that no truth value is written as. -/
  | unreadableBoolean
  /-- The fields are fine, and do not go together. -/
  | rejected (reason : String)
  deriving DecidableEq, Repr

/-- The code of a problem. -/
def FieldProblem.code : FieldProblem → String
  | .missing => "missing"
  | .notText => "string_type"
  | .brokenText => "string_unicode"
  | .notMember => "enum"
  | .notRecord => "model_type"
  | .notMapping => "dict_type"
  | .notChoice => "literal_error"
  | .notMoment => "datetime_type"
  | .unreadableMoment => "datetime_parsing"
  | .notInteger => "int_type"
  | .unreadableInteger => "int_parsing"
  | .oversizedInteger => "int_parsing_size"
  | .notFinite => "finite_number"
  | .fractional => "int_from_float"
  | .notAbove => "greater_than"
  | .below => "greater_than_equal"
  | .notBoolean => "bool_type"
  | .unreadableBoolean => "bool_parsing"
  | .rejected _ => "value_error"

/-- A problem and the path to the field that has it. -/
structure FieldFault where
  path : List String
  problem : FieldProblem
  deriving DecidableEq, Repr

/-- A value, or everything that is wrong with its fields. -/
inductive Validated (α : Type)
  | valid (value : α)
  | invalid (faults : List FieldFault)
  deriving Repr

namespace Validated

/-- A value with one fault. -/
def fault {α : Type} (path : List String) (problem : FieldProblem) : Validated α :=
  .invalid [⟨path, problem⟩]

/-- Applies a read function to a read argument; the faults of both are kept in order. -/
def ap {α β : Type} : Validated (α → β) → Validated α → Validated β
  | .valid f, .valid a => .valid (f a)
  | .valid _, .invalid faults => .invalid faults
  | .invalid faults, .valid _ => .invalid faults
  | .invalid faults, .invalid more => .invalid (faults ++ more)

instance : Applicative Validated where
  pure := .valid
  seq f a := ap f (a ())

/-- All values of a list, or the faults of all of them. -/
def all {α : Type} : List (Validated α) → Validated (List α)
  | [] => .valid []
  | v :: vs => List.cons <$> v <*> all vs

end Validated
end ClusterAccess
