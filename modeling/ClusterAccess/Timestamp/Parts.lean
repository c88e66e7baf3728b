/-
  ClusterAccess.Timestamp.Parts

  The parts of a date and a time as a text gives them. Each of them has a range,
  and the first part beyond its range is what is wrong with a text that has the
  right form. A day may lie behind the end of its month.
-/
import ClusterAccess.Timestamp

namespace ClusterAccess.Timestamp

/-- The parts of a date and a time. -/
structure Parts where
  year : Int
  month : Nat
  day : Nat
  hour : Nat := 0
  minute : Nat := 0
  second : Nat := 0
  microsecond : Nat := 0
  deriving DecidableEq, Repr

/-- A part that lies beyond its range. -/
inductive OutOfRange
  | year (year : Int)
  | month
  | day
  | hour
  | minute
  | second
  | microsecond
  deriving DecidableEq, Repr

/-- The part and its range, in words. -/
def OutOfRange.message : OutOfRange → String
  | .year n => "year " ++ toString n ++ " is out of range"
  | .month => "month must be in 1..12"
  | .day => "day is out of range for month"
  | .hour => "hour must be in 0..23"
  | .minute => "minute must be in 0..59"
  | .second => "second must be in 0..59"
  | .microsecond => "microsecond must be in 0..999999"

namespace Parts

/-- The first part of the date that lies beyond its range. -/
def dateFault? (p : Parts) : Option OutOfRange :=
  if p.year < 1 ∨ 9999 < p.year then some (.year p.year)
  else if p.month < 1 ∨ 12 < p.month then some .month
  else if p.day < 1 ∨ Calendar.daysInMonth p.year p.month < p.day then some .day
  else none

/-- The first part of the time that lies beyond its range. -/
def timeFault? (p : Parts) : Option OutOfRange :=
  if 23 < p.hour then some .hour
  else if 59 < p.minute then some .minute
  else if 59 < p.second then some .second
  else if 999999 < p.microsecond then some .microsecond
  else none

/-- The first part that lies beyond its range. -/
def fault? (p : Parts) : Option OutOfRange :=
  p.dateFault?.or p.timeFault?

/-- The microseconds since the beginning of 1970, if the parts are those of UTC. -/
def microseconds (p : Parts) : Int :=
  let days := Calendar.dayNumber p.year p.month p.day - Calendar.epoch
  (days * 86400 + (p.hour * 3600 + p.minute * 60 + p.second : Nat)) * micro + p.microsecond

/-- Whether a moment does not come behind another one, to the second. -/
def isUpTo (p other : Parts) : Bool :=
  let fields (p : Parts) : List Int := [p.year, p.month, p.day, p.hour, p.minute, p.second]
  !List.lex (fields other) (fields p) fun a b => decide (a < b)

/-- The parts of a moment. -/
def ofTimestamp (t : Timestamp) : Parts :=
  ⟨t.year, t.month, t.day, t.hour, t.minute, t.second, t.microsecond⟩

end Parts
end ClusterAccess.Timestamp
