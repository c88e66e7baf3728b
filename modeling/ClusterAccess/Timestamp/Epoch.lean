/-
  ClusterAccess.Timestamp.Epoch

  Moments as seconds since the beginning of 1970, within three limits: a clock
  counts seconds in 64 bits, a calendar counts years in 32 bits from 1900 on, and
  a date has a year of at most four digits.
-/
import ClusterAccess.Number.Binary
import ClusterAccess.Timestamp

namespace ClusterAccess.Timestamp.Epoch

/-- Why a number of seconds is no moment. -/
inductive Refusal
  | notANumber
  /-- No clock counts so far. -/
  | beyondClock
  /-- No calendar goes so far. -/
  | beyondCalendar
  /-- No date has this year. -/
  | year (year : Int)
  deriving DecidableEq, Repr

/-- Why a number of seconds is no moment, in words. -/
def Refusal.message : Refusal → String
  | .notANumber => "Invalid value NaN (not a number)"
  | .beyondClock => "timestamp out of range for platform time_t"
  | .beyondCalendar => "[Errno 75] Value too large for defined data type"
  | .year n => "year " ++ toString n ++ " is out of range"

/-- Whether a number has a place among those of some bits with a sign. -/
def fits (bits : Nat) (n : Int) : Bool :=
  -(Nat.pow 2 (bits - 1) : Int) ≤ n && n < Nat.pow 2 (bits - 1)

/-- Checks a moment, given in microseconds. A year that a calendar cannot tell apart from another
one is taken for the other one. -/
def ofMicroseconds (microseconds : Int) : Except Refusal Int :=
  let seconds := microseconds / micro
  let (year, _, _) := Calendar.ofDayNumber (Calendar.epoch + seconds / 86400)
  if !fits 64 seconds then .error .beyondClock
  else if !fits 32 (year - 1900) then .error .beyondCalendar
  else if 1 ≤ year ∧ year ≤ 9999 then .ok microseconds
  else .error (.year (Int.bmod year (Nat.pow 2 32)))

/-- The microseconds of a moment that a whole number of seconds gives. -/
def ofNumber (n : Int) : Except Refusal Int :=
  ofMicroseconds (n * micro)

/-- The microseconds of a moment that a number with a point gives. Those of the part behind the
point are rounded to a binary number, and then to a whole one. -/
def ofReal (d : Decimal) : Except Refusal Int :=
  match d.fraction? with
  | none => .error (if d = .notANumber then .notANumber else .beyondClock)
  | some (num, den) =>
    let (part, whole) := (Number.multiple? (num.natAbs % den) den 1000000).getD (0, 1)
    let magnitude : Int := num.natAbs / den * micro + Number.roundHalfEven part whole
    ofMicroseconds (if num < 0 then -magnitude else magnitude)

end ClusterAccess.Timestamp.Epoch
