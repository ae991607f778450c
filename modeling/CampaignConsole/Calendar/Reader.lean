import CampaignConsole.Calendar.Moment
import CampaignConsole.Text.Blank

/-!
Reading moments.

A moment is written as a date, a letter `T` or a space, a time of day and an offset from Coordinated
Universal Time, in the manner of RFC 3339.  The reading is liberal: numbers may be short, blanks may
stand in front of each of them and around the signs between them, years may have a sign and more
than four digits, and the hours and minutes of an offset may be parted by any run of colons and
blanks.
-/

namespace CampaignConsole.Calendar

/-- A reader takes characters from the front of a text. -/
abbrev Reader := StateT (List Char) Option

namespace Reader

/-- Skips blanks. -/
def blanks : Reader Unit :=
  modify (·.dropWhile Text.isBlank)

/-- Takes one given character. -/
def literal (c : Char) : Reader Unit := do
  match ← get with
  | d :: rest => if d = c then set rest else failure
  | [] => failure

/-- The number that a run of decimal digits writes. -/
def digitsValue (digits : List Char) : Nat :=
  digits.foldl (fun n d => n * 10 + (d.toNat - 48)) 0

/-- Takes as many decimal digits as there are, at least one and at most `width`. -/
def number (width : Nat) : Reader Nat := do
  let cs ← get
  let digits := (cs.takeWhile Char.isDigit).take width
  if digits.isEmpty then failure
  else
    set (cs.drop digits.length)
    return digitsValue digits

/-- Takes exactly two decimal digits. -/
def twoDigits : Reader Nat := do
  match ← get with
  | a :: b :: rest =>
      if a.isDigit && b.isDigit then
        set rest
        return digitsValue [a, b]
      else failure
  | _ => failure

/-- Takes a number of at most `width` digits after blanks. -/
def field (width : Nat) : Reader Nat := do
  blanks
  number width

/-- Takes all decimal digits that come next, at least one. -/
def longNumber : Reader Nat := do
  number (← get).length

/-- Takes a year: up to four digits, or a sign and any number of digits. -/
def year : Reader Int := do
  blanks
  match ← get with
  | '-' :: rest => set rest; return -(← longNumber)
  | '+' :: rest => set rest; return (← longNumber)
  | _ => return (← number 4)

/-- Takes a sign between two numbers, with blanks in front. -/
def separator (c : Char) : Reader Unit := do
  blanks
  literal c

/-- Takes a date. -/
def date : Reader Date := do
  let year ← year
  separator '-'
  let month ← field 2
  separator '-'
  let day ← field 2
  let d : Date := { year, month, day }
  if d.isValid then return d else failure

/-- Takes what parts a date from a time of day. -/
def dateEnd : Reader Unit := do
  match ← get with
  | c :: rest => if c = 't' ∨ c = 'T' ∨ c = ' ' then set rest else failure
  | [] => failure

/-- Takes the fraction of a second in nanoseconds, if there is one; digits after the
ninth are skipped. -/
def fraction : Reader Nat := do
  match ← get with
  | '.' :: rest =>
      set rest
      let before := rest.length
      let value ← number 9
      let width := before - (← get).length
      modify (·.dropWhile Char.isDigit)
      return value * Nat.pow 10 (9 - width)
  | _ => return 0

/-- Takes a time of day on a date; the second 60 is a leap second. -/
def timeOn (date : Date) : Reader Moment := do
  let hour ← field 2
  separator ':'
  let minute ← field 2
  separator ':'
  let second ← field 2
  let nanos ← fraction
  if 23 < hour || 59 < minute || 60 < second then failure
  else if second = 60 then
    return { date, hour, minute, second := 59, nanos := nanos + 1000000000 }
  else return { date, hour, minute, second, nanos }

/-- Takes the hours and minutes of an offset, in seconds; they stay below one day. -/
def offsetSize : Reader Nat := do
  let hours ← twoDigits
  modify (·.dropWhile fun c => c == ':' || Text.isBlank c)
  let minutes ← twoDigits
  if 59 < minutes || 23 < hours then failure else return hours * 3600 + minutes * 60

/-- Takes an offset from Coordinated Universal Time, in seconds. -/
def offset : Reader Int := do
  blanks
  match ← get with
  | 'Z' :: rest | 'z' :: rest => set rest; return 0
  | '+' :: rest => set rest; return (← offsetSize)
  | '-' :: rest | '\u2212' :: rest => set rest; return -(← offsetSize)
  | u :: t :: c :: rest =>
      if [u, t, c].map Char.toUpper = ['U', 'T', 'C'] then
        set rest
        return 0
      else failure
  | _ => failure

end Reader

/-- Reads a moment, converted to Coordinated Universal Time. -/
def Moment.ofText? (text : String) : Option Moment := do
  let read : Reader Moment := do
    let date ← Reader.date
    Reader.dateEnd
    let there ← Reader.timeOn date
    let offset ← Reader.offset
    Reader.blanks
    return there.shift (-offset)
  let (moment, rest) ← read text.toList
  if rest.isEmpty && moment.date.isValid then some moment else none

end CampaignConsole.Calendar
