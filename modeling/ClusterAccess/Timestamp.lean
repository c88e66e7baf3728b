/-
  ClusterAccess.Timestamp

  A moment: a date, a time of day with microseconds, and an offset from UTC that
  may be missing. Two printed forms differ in how they write the offset. In
  documents it has hours and minutes, and the offset zero is written `Z`; in
  profiles it has as many parts as it needs.
-/
import ClusterAccess.Number.Binary
import ClusterAccess.Timestamp.Calendar

namespace ClusterAccess

/-- A date, a time of day, and the offset from UTC in microseconds if it is known. -/
structure Timestamp where
  year : Nat
  month : Nat
  day : Nat
  hour : Nat := 0
  minute : Nat := 0
  second : Nat := 0
  microsecond : Nat := 0
  offset : Option Int := none
  deriving DecidableEq, Repr, Inhabited

namespace Timestamp

/-! ## Seconds -/

/-- Microseconds in a second. -/
def micro : Int := 1000000

/-- The moment of UTC that lies some seconds and microseconds behind the beginning of 1970. -/
def ofSeconds (seconds : Int) (microseconds : Nat) : Timestamp :=
  let (year, month, day) := Calendar.ofDayNumber (Calendar.epoch + seconds / 86400)
  let rest := (seconds % 86400).toNat
  { year := year.toNat
    month
    day
    hour := rest / 3600
    minute := rest / 60 % 60
    second := rest % 60
    microsecond := microseconds
    offset := some 0 }

/-- The moment of UTC that lies some microseconds behind the beginning of 1970, if its year has four
digits and is not zero. -/
def ofMicroseconds? (microseconds : Int) : Option Timestamp :=
  let seconds := microseconds / micro
  if -62135596800 ≤ seconds ∧ seconds ≤ 253402300799 then
    some (ofSeconds seconds (microseconds % micro).toNat)
  else none

/-- Beyond this distance from the beginning of 1970, numbers count milliseconds. -/
def secondsLimit : Nat := 20000000000

/-- The moment that a whole number stands for. -/
def ofNumber? (n : Int) : Option Timestamp :=
  ofMicroseconds? (n * if n.natAbs ≤ secondsLimit then micro else 1000)

/-- The moment that a number with a point stands for. A fraction of a second and the number of its
microseconds are rounded to binary numbers, before the latter is rounded to a whole one. -/
def ofReal? (d : Decimal) : Option Timestamp := do
  let (num, den) ← d.fraction?
  if num.natAbs ≤ secondsLimit * den then
    let (part, whole) ← Number.multiple? (num % den).toNat den 1000000
    ofMicroseconds? (num / den * micro + Number.roundHalfUp part whole)
  else
    ofMicroseconds? (Number.roundHalfUp (num * 1000) den)

/-! ## Writing -/

/-- A number with zeros in front, up to a width. -/
def padded (width n : Nat) : String :=
  let digits := toString n
  String.ofList (List.replicate (width - digits.length) '0') ++ digits

/-- The date and time without an offset. -/
def localText (t : Timestamp) : String :=
  padded 4 t.year ++ "-" ++ padded 2 t.month ++ "-" ++ padded 2 t.day ++ "T" ++
    padded 2 t.hour ++ ":" ++ padded 2 t.minute ++ ":" ++ padded 2 t.second ++
    if t.microsecond = 0 then "" else "." ++ padded 6 t.microsecond

/-- The sign of an offset. -/
def signText (i : Int) : String :=
  if i < 0 then "-" else "+"

/-- Hours and minutes of some seconds. -/
def clockText (seconds : Nat) : String :=
  padded 2 (seconds / 3600) ++ ":" ++ padded 2 (seconds / 60 % 60)

/-- An offset with seconds and microseconds where it has any. -/
def offsetText (microseconds : Int) : String :=
  let seconds := microseconds.natAbs / 1000000
  let fraction := microseconds.natAbs % 1000000
  signText microseconds ++ clockText seconds ++
    (if seconds % 60 = 0 ∧ fraction = 0 then "" else ":" ++ padded 2 (seconds % 60)) ++
    if fraction = 0 then "" else "." ++ padded 6 fraction

/-- An offset in hours and minutes, after rounding to seconds. -/
def shortOffsetText (microseconds : Int) : String :=
  let seconds := (microseconds.natAbs + 500000) / 1000000
  if seconds = 0 then "Z" else signText microseconds ++ clockText seconds

/-- The form of profiles. -/
def profileText (t : Timestamp) : String :=
  t.localText ++ (t.offset.map offsetText).getD ""

/-- The form of documents. -/
def documentText (t : Timestamp) : String :=
  t.localText ++ (t.offset.map shortOffsetText).getD ""

end Timestamp
end ClusterAccess
