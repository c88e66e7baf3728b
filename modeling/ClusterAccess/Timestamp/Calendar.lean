/-
  ClusterAccess.Timestamp.Calendar

  The calendar of the common era, carried on in both directions: days are
  counted from the first day of the year one, which has the number one. Weeks
  begin on Monday, and the first one of a year is the one that holds its first
  Thursday.
-/

namespace ClusterAccess.Calendar

/-- Whether a year has a day more. -/
def isLeap (year : Int) : Bool :=
  year % 4 == 0 && (year % 100 != 0 || year % 400 == 0)

/-- How many days a month has. -/
def daysInMonth (year : Int) (month : Nat) : Nat :=
  if month = 2 then (if isLeap year then 29 else 28)
  else if month = 4 ∨ month = 6 ∨ month = 9 ∨ month = 11 then 30
  else 31

/-- The number of the last day before a year. -/
def daysBefore (year : Int) : Int :=
  let y := year - 1
  365 * y + y / 4 - y / 100 + y / 400

/-- The number of a day. -/
def dayNumber (year : Int) (month day : Nat) : Int :=
  let earlier := (List.range (month - 1)).foldl (fun n m => n + daysInMonth year (m + 1)) 0
  daysBefore year + (earlier + day : Nat)

/-- The place of a day in its year, as a month and a day. -/
def monthAndDay (year : Int) : Nat → Nat → Nat → Nat × Nat
  | 0, month, rest => (month, rest)
  | months + 1, month, rest =>
    if rest ≤ daysInMonth year month then (month, rest)
    else monthAndDay year months (month + 1) (rest - daysInMonth year month)

/-- The year of the day with a number. -/
def yearOf (n : Int) : Int :=
  let guess := (n * 400) / 146097
  if daysBefore (guess + 2) < n then guess + 2
  else if daysBefore (guess + 1) < n then guess + 1
  else guess

/-- The year, the month and the day with a number. -/
def ofDayNumber (n : Int) : Int × Nat × Nat :=
  let year := yearOf n
  let (month, day) := monthAndDay year 11 1 (n - daysBefore year).toNat
  (year, month, day)

/-- The number of the first day of 1970. -/
def epoch : Int := dayNumber 1970 1 1

/-! ## Weeks -/

/-- The day of the week, Monday being zero. -/
def weekday (n : Int) : Int :=
  (n + 6) % 7

/-- The number of the Monday of a year's first week. -/
def firstMonday (year : Int) : Int :=
  let first := dayNumber year 1 1
  let monday := first - weekday first
  if 3 < weekday first then monday + 7 else monday

/-- How many weeks a year has. -/
def weeks (year : Int) : Nat :=
  let first := weekday (dayNumber year 1 1)
  if first = 3 ∨ (first = 2 ∧ isLeap year) then 53 else 52

/-- The number of a day of a week. -/
def dayOfWeek? (year : Int) (week day : Nat) : Option Int :=
  if 1 ≤ week ∧ week ≤ weeks year ∧ 1 ≤ day ∧ day ≤ 7 then
    some (firstMonday year + (7 * (week - 1) + (day - 1) : Nat))
  else none

end ClusterAccess.Calendar
