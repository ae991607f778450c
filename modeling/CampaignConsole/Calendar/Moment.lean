/-!
Moments of the civil calendar, in Coordinated Universal Time.

A `Moment` is a date of the Gregorian calendar (continued to years before its time) with a time of
day; a leap second is written as nanoseconds from one second on.  `Moment.shift` moves a moment by
less than a day, which is all that a time zone asks for.  `Date.dayNumber` counts days, so moments
can be compared as instants.
-/

namespace CampaignConsole.Calendar

/-! ## Dates -/

/-- A day of the calendar. -/
structure Date where
  year : Int
  month : Nat
  day : Nat
  deriving DecidableEq, Repr

/-- Whether a year has a 29th of February. -/
def isLeapYear (year : Int) : Bool :=
  year % 4 == 0 && (year % 100 != 0 || year % 400 == 0)

/-- The number of days of a month. -/
def daysInMonth (year : Int) (month : Nat) : Nat :=
  match month with
  | 2 => if isLeapYear year then 29 else 28
  | 4 | 6 | 9 | 11 => 30
  | _ => 31

namespace Date

/-- The first and the last year that a date may have. -/
def firstYear : Int := -262143
def lastYear : Int := 262142

/-- Whether a date is a day of the calendar in the range of years. -/
def isValid (d : Date) : Bool :=
  firstYear ≤ d.year && d.year ≤ lastYear && 1 ≤ d.month && d.month ≤ 12 &&
    1 ≤ d.day && d.day ≤ daysInMonth d.year d.month

/-- The day after. -/
def next (d : Date) : Date :=
  if d.day < daysInMonth d.year d.month then { d with day := d.day + 1 }
  else if d.month < 12 then { d with month := d.month + 1, day := 1 }
  else { year := d.year + 1, month := 1, day := 1 }

/-- The day before. -/
def previous (d : Date) : Date :=
  if 1 < d.day then { d with day := d.day - 1 }
  else if 1 < d.month then
    { d with month := d.month - 1, day := daysInMonth d.year (d.month - 1) }
  else { year := d.year - 1, month := 12, day := 31 }

/-- The days of a year before a month. -/
def daysBeforeMonth (year : Int) (month : Nat) : Nat :=
  (List.range (month - 1)).foldl (fun days m => days + daysInMonth year (m + 1)) 0

/-- The number of a day, counted from the first day of the year 0. -/
def dayNumber (d : Date) : Int :=
  let past := d.year - 1
  365 * d.year + past / 4 - past / 100 + past / 400 + daysBeforeMonth d.year d.month + d.day

end Date

/-! ## Moments -/

/-- A date and a time of day; a leap second has its nanoseconds from 10^9 on. -/
structure Moment where
  date : Date
  hour : Nat
  minute : Nat
  second : Nat
  nanos : Nat
  deriving DecidableEq, Repr

namespace Moment

/-- The number of minutes of a moment, counted from the first day of the year 0. -/
def minutes (m : Moment) : Int :=
  m.date.dayNumber * 1440 + m.hour * 60 + m.minute

/-- Moves a moment by less than a day, given in seconds. -/
def shift (m : Moment) (seconds : Int) : Moment :=
  let total : Int := m.hour * 3600 + m.minute * 60 + m.second + seconds
  let date :=
    if total < 0 then m.date.previous
    else if 86400 ≤ total then m.date.next
    else m.date
  let inDay := (total % 86400).toNat
  { date, hour := inDay / 3600, minute := inDay / 60 % 60, second := inDay % 60, nanos := m.nanos }

/-! ## Writing -/

/-- A number with zeros in front up to a width. -/
def padded (width n : Nat) : String :=
  let digits := toString n
  String.ofList (List.replicate (width - digits.length) '0') ++ digits

/-- A year: four digits, and a sign outside the years 0 to 9999. -/
def yearText (year : Int) : String :=
  if 0 ≤ year ∧ year ≤ 9999 then padded 4 year.toNat
  else (if year < 0 then "-" else "+") ++ padded 4 year.natAbs

/-- A date as year, month and day. -/
def dateText (d : Date) : String :=
  yearText d.year ++ "-" ++ padded 2 d.month ++ "-" ++ padded 2 d.day

/-- A moment to the minute, as lists show it. -/
def toMinuteText (m : Moment) : String :=
  dateText m.date ++ " " ++ padded 2 m.hour ++ ":" ++ padded 2 m.minute

/-- The fraction of a second: none, or as many of three, six or nine digits as it needs. -/
def fractionText (nanos : Nat) : String :=
  if nanos == 0 then ""
  else if nanos % 1000000 == 0 then "." ++ padded 3 (nanos / 1000000)
  else if nanos % 1000 == 0 then "." ++ padded 6 (nanos / 1000)
  else "." ++ padded 9 nanos

/-- A moment by RFC 3339 in UTC; a leap second is the second 60. -/
def toRfc3339 (m : Moment) : String :=
  let leap := 1000000000 ≤ m.nanos
  dateText m.date ++ "T" ++ padded 2 m.hour ++ ":" ++ padded 2 m.minute ++ ":" ++
    padded 2 (if leap then m.second + 1 else m.second) ++
    fractionText (if leap then m.nanos - 1000000000 else m.nanos) ++ "Z"

end Moment

end CampaignConsole.Calendar
