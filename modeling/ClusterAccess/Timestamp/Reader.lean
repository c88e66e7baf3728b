/-
  ClusterAccess.Timestamp.Reader

  Moments as texts. A date is given by month and day or by week and day, with
  dashes or without; any one character may stand between it and the time. The
  time has one to three fields of two digits, with colons or without, and a
  fraction; an offset has the same form behind its sign.

  The reader is lenient in places where nothing can be mistaken: a single octet
  behind the fields of a time is passed over in front of an offset, and so is
  whatever follows six digits of a fraction.
-/
import ClusterAccess.Text.Utf
import ClusterAccess.Timestamp.Parts

namespace ClusterAccess.Timestamp

/-- Why a text is no moment. -/
inductive Refusal
  /-- Dates and times are not written so. -/
  | form
  /-- The offset, in microseconds, is a day or more. -/
  | offset (microseconds : Int)
  /-- A part lies beyond its range. -/
  | part (fault : OutOfRange)
  deriving DecidableEq, Repr

/-! ## Digits -/

/-- Whether an octet is a digit. -/
def isDigit (octet : Nat) : Bool :=
  48 ≤ octet && octet ≤ 57

/-- The number that digits give. -/
def ofDigits (digits : List Nat) : Nat :=
  digits.foldl (fun n d => n * 10 + (d - 48)) 0

/-- A number of exactly `width` digits at the front, and what follows it. -/
def number? (width : Nat) (octets : List Nat) : Option (Nat × List Nat) :=
  let digits := octets.take width
  if digits.length = width ∧ digits.all isDigit then some (ofDigits digits, octets.drop width)
  else none

/-- The octets of the marks. -/
def dash : Nat := 0x2D

/-- The octet between fields. -/
def colon : Nat := 0x3A

/-! ## Where the date ends -/

/-- How many octets a date has, as far as its first ones tell. Where a week is followed by digits
alone, an even number of them is a time. -/
def dateLength (octets : List Nat) : Nat :=
  let at? (i : Nat) : Nat := (octets[i]?).getD 0
  if octets.length = 7 then 7
  else if at? 4 = dash then
    if at? 5 = 0x57 then
      if at? 8 = dash ∧ 8 < octets.length then
        if 10 < octets.length ∧ isDigit (at? 10) then 8 else 10
      else 8
    else 10
  else if at? 4 = 0x57 then
    let stop := 7 + ((octets.drop 7).takeWhile isDigit).length
    if stop < 9 then stop else if stop % 2 = 0 then 7 else 8
  else 8

/-- How many octets the character of a first octet has. -/
def widthOf (octet : Nat) : Nat :=
  if octet < 0x80 then 1
  else if octet / 16 = 0xE then 3
  else if octet / 16 = 0xF then 4
  else 2

/-! ## Dates -/

/-- A separator, if the date has them. -/
def separator? (dashed : Bool) (octets : List Nat) : Option (List Nat) :=
  if dashed then (if octets.head? = some dash then some (octets.drop 1) else none)
  else some octets

/-- A date by week and day. Without a day it is the first one; `last` tells whether the date ends
behind the week. A day before the year one is taken for one of no month of that year. -/
def weekDate? (year : Nat) (dashed last : Bool) (octets : List Nat) : Option Parts := do
  let (week, rest) ← number? 2 octets
  let day ← if last then pure 1 else (do
    let (day, _) ← number? 1 (← separator? dashed rest)
    pure day)
  let n ← Calendar.dayOfWeek? year week day
  let (year, month, day) := Calendar.ofDayNumber n
  pure (if n < 1 then { year := 1, month := 0, day } else { year, month, day })

/-- A date at the front of a text, of which it has some octets. -/
def date? (length : Nat) (octets : List Nat) : Option Parts := do
  let (year, rest) ← number? 4 octets
  let dashed : Bool := rest.head? = some dash
  let rest := if dashed then rest.drop 1 else rest
  if rest.head? = some 0x57 then
    weekDate? year dashed (length ≤ (if dashed then 8 else 7)) (rest.drop 1)
  else
    let (month, rest) ← number? 2 rest
    let (day, _) ← number? 2 (← separator? dashed rest)
    pure { year, month, day }

/-! ## Times -/

/-- The fields of a time as they are written. -/
structure Clock where
  hour : Nat := 0
  minute : Nat := 0
  second : Nat := 0
  microsecond : Nat := 0
  /-- Whether something was left behind the last field. -/
  leftover : Bool := false

/-- A time by its fields. -/
def Clock.ofFields (fields : List Nat) (microsecond : Nat) (leftover : Bool) : Clock :=
  ⟨fields.getD 0 0, fields.getD 1 0, fields.getD 2 0, microsecond, leftover⟩

/-- The octet at the front, or else the one behind all, which is zero at the end of a text. -/
def front (next : Nat) (octets : List Nat) : Nat :=
  octets.head?.getD next

/-- A fraction: of up to six digits, and of any more behind them. -/
def fraction? (fields : List Nat) (next : Nat) (octets : List Nat) : Option Clock :=
  let digits := octets.take 6
  if digits.all isDigit then
    let rest := (octets.drop 6).dropWhile isDigit
    some (.ofFields fields (ofDigits digits * Nat.pow 10 (6 - digits.length)) (front next rest ≠ 0))
  else none

/-- The fields of a time behind those read, up to three of them. -/
def fields? (colons : Option Bool) (fields : List Nat) (next : Nat) :
    Nat → List Nat → Option Clock
  | 0, octets => fraction? fields next octets
  | count + 1, octets =>
    match number? 2 octets with
    | none => none
    | some (field, rest) =>
      let fields := fields ++ [field]
      let mark := front next rest
      -- The first mark decides whether there are colons between all fields.
      let colons := colons.getD (mark = colon)
      if rest.length ≤ 1 then some (.ofFields fields 0 (mark ≠ 0))
      else if colons ∧ mark = colon then fields? colons fields next count (rest.drop 1)
      else if mark = 0x2E ∨ mark = 0x2C then fraction? fields next (rest.drop 1)
      else if colons then none
      else fields? colons fields next count rest

/-- A time in front of an octet. -/
def clock? (next : Nat) (octets : List Nat) : Option Clock :=
  fields? none [] next 3 octets

/-- Whether an octet begins an offset. -/
def opensOffset (octet : Nat) : Bool :=
  octet == 0x2B || octet == dash || octet == 0x5A

/-- The offset of a sign and a time, in microseconds. One without whole seconds is none. -/
def offsetOf (negative : Bool) (c : Clock) : Int :=
  let seconds := c.hour * 3600 + c.minute * 60 + c.second
  if seconds = 0 then 0
  else
    let total : Int := (seconds * 1000000 + c.microsecond : Nat)
    if negative then -total else total

/-- An offset: `Z`, or a sign and a time. -/
def offset? : List Nat → Option Int
  | [] => none
  | mark :: rest =>
    if mark = 0x5A then (if front 0 rest = 0 then some 0 else none)
    else match clock? 0 rest with
      | some c => if c.leftover then none else some (offsetOf (mark = dash) c)
      | none => none

/-- A time with an offset or without. -/
def clockAndOffset? (octets : List Nat) : Option (Clock × Option Int) :=
  let body := octets.takeWhile fun o => !opensOffset o
  let rest := octets.drop body.length
  match clock? (front 0 rest) body with
  | none => none
  | some c =>
    if rest = [] then (if c.leftover then none else some (c, none))
    else (offset? rest).map fun o => (c, some o)

/-! ## Moments -/

/-- What lies beyond its range. The offset is looked at first. -/
def refusal? (p : Parts) (offset : Option Int) : Option Refusal :=
  let day : Int := 86400 * micro
  match offset.filter fun o => decide (o ≤ -day ∨ day ≤ o) with
  | some o => some (.offset o)
  | none => p.fault?.map .part

/-- The parts of a moment as a text writes them, and its offset. -/
def written? (octets : List Nat) : Option (Parts × Option Int) := do
  if octets.length < 7 then failure
  let length := dateLength octets
  let date ← date? length octets
  if octets.length ≤ length then pure (date, none)
  else
    let rest := octets.drop length
    let (c, offset) ← clockAndOffset? (rest.drop (widthOf (front 0 rest)))
    pure ({ date with
      hour := c.hour, minute := c.minute, second := c.second, microsecond := c.microsecond },
      offset)

/-- Reads a moment. -/
def read (s : String) : Except Refusal Timestamp :=
  match written? (Text.utf8 s.toList) with
  | none => .error .form
  | some (p, offset) =>
    match refusal? p offset with
    | some refusal => .error refusal
    | none => .ok ⟨p.year.toNat, p.month, p.day, p.hour, p.minute, p.second, p.microsecond, offset⟩

/-- Reads a moment from symbols. One half of a pair may stand between the date and the time. -/
def readSymbols (symbols : List Text.Symbol) : Except Refusal Timestamp :=
  let isHalf (i : Nat) : Bool := (symbols[i]?).any fun s => s.char?.isNone
  let symbols := match [7, 8, 10].find? isHalf with
    | some i => symbols.set i (.char 'T')
    | none => symbols
  match Text.wholeText? symbols with
  | some cs => read (String.ofList cs)
  | none => .error .form

/-! ## Words -/

/-- A length of time in days, seconds and microseconds; only the days may be negative. -/
def durationText (microseconds : Int) : String :=
  let seconds := microseconds / micro
  let parts := [("days", seconds / 86400), ("seconds", seconds % 86400),
    ("microseconds", microseconds % micro)]
  let shown := parts.filter fun p => p.2 ≠ 0
  "datetime.timedelta(" ++ ", ".intercalate (shown.map fun p => p.1 ++ "=" ++ toString p.2) ++ ")"

/-- Why a text, here quoted, is no moment. -/
def Refusal.message (quoted : String) : Refusal → String
  | .form => "Invalid isoformat string: " ++ quoted
  | .offset o =>
    "offset must be a timedelta strictly between -timedelta(hours=24) and " ++
      "timedelta(hours=24), not " ++ durationText o ++ "."
  | .part fault => fault.message

end ClusterAccess.Timestamp
