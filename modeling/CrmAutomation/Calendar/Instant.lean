import CrmAutomation.Numeric.Shortest

/-!
Instants, their calendar dates in UTC, and their texts.

Days are counted from the first day of year 1 in the Gregorian calendar extended backwards; dates
run through year 9999.
-/

namespace CrmAutomation.Calendar

/-- Milliseconds since the start of 1970. -/
abbrev Instant := Int

/-- The milliseconds of a day. -/
def dayMs : Nat := 86400000

/-- The days before 1970. -/
def epochDays : Nat := 719162

/-- The days of years 1 to 9999. -/
def dayLimit : Nat := 3652059

/-- A date and time of day in UTC. -/
structure Civil where
  year : Nat
  month : Nat
  day : Nat
  hour : Nat
  minute : Nat
  second : Nat
  milli : Nat
  deriving DecidableEq, Repr

def isLeap (year : Nat) : Bool := year % 4 == 0 && (year % 100 != 0 || year % 400 == 0)

/-- The year that holds a day, and the days of that year before it. -/
def yearOfDay (d : Nat) : Nat × Nat :=
  let n400 := d / 146097
  let r400 := d % 146097
  let n100 := min (r400 / 36524) 3
  let r100 := r400 - n100 * 36524
  let n4 := r100 / 1461
  let r4 := r100 % 1461
  let n1 := min (r4 / 365) 3
  (400 * n400 + 100 * n100 + 4 * n4 + n1 + 1, r4 - n1 * 365)

/-- The lengths of the months. -/
def monthLengths (leap : Bool) : List Nat :=
  [31, if leap then 29 else 28, 31, 30, 31, 30, 31, 31, 30, 31, 30, 31]

/-- The month that holds a day of the year, counted from `month`, and the day of that month. -/
def monthOfDay (month : Nat) : List Nat → Nat → Nat × Nat
  | [], r => (month, r + 1)
  | n :: ns, r => if r < n then (month, r + 1) else monthOfDay (month + 1) ns (r - n)

namespace Instant

/-- Milliseconds since the start of year 1. -/
def sinceYearOne (t : Instant) : Nat := (t + epochDays * dayMs).toNat

def civil (t : Instant) : Civil :=
  let d := sinceYearOne t / dayMs
  let ms := sinceYearOne t % dayMs
  let (year, r) := yearOfDay d
  let (month, day) := monthOfDay 1 (monthLengths (isLeap year)) r
  { year, month, day
    hour := ms / 3600000
    minute := ms / 60000 % 60
    second := ms / 1000 % 60
    milli := ms % 1000 }

end Instant

/-- A number with leading zeros to a width. -/
def padded (width n : Nat) : List Char :=
  let ds := Numeric.natDigits n
  List.replicate (width - ds.length) '0' ++ ds

namespace Civil

def dateChars (c : Civil) : List Char :=
  padded 4 c.year ++ '-' :: padded 2 c.month ++ '-' :: padded 2 c.day

/-- Hours, minutes and seconds, and six digits of fraction unless it is zero. -/
def timeChars (c : Civil) : List Char :=
  padded 2 c.hour ++ ':' :: padded 2 c.minute ++ ':' :: padded 2 c.second ++
    (if c.milli = 0 then [] else '.' :: padded 6 (c.milli * 1000))

end Civil

namespace Instant

/-- The date as a text, such as `2024-03-01`. -/
def dateText (t : Instant) : String := String.ofList (civil t).dateChars

/-- The instant as a text, such as `2024-03-01T12:00:00.250000+00:00`. -/
def isoChars (t : Instant) : List Char :=
  (civil t).dateChars ++ 'T' :: (civil t).timeChars ++ ['+', '0', '0', ':', '0', '0']

def isoText (t : Instant) : String := String.ofList (isoChars t)

end Instant

/-! ### Days from now -/

/-- Why a count of days leads to no date. -/
inductive DateFault where
  | hugeCount
  | countOutOfRange (days : Int)
  | outOfRange
  deriving DecidableEq, Repr

namespace DateFault

def message : DateFault → String
  | hugeCount => "Python int too large to convert to C int"
  | countOutOfRange days =>
    "days=" ++ Numeric.intText days ++ "; must have magnitude <= 999999999"
  | outOfRange => "date value out of range"

end DateFault

/-- The instant a number of days later, or earlier if it is negative. -/
def Instant.addDays (t : Instant) (days : Int) : Except DateFault Instant :=
  if days < -2147483648 || 2147483647 < days then .error .hugeCount
  else if 999999999 < days.natAbs then .error (.countOutOfRange days)
  else
    let u : Int := t + days * dayMs
    if u + epochDays * dayMs < 0 || (dayLimit : Int) * dayMs ≤ u + epochDays * dayMs then
      .error .outOfRange
    else .ok u

end CrmAutomation.Calendar
