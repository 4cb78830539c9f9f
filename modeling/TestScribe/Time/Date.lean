import TestScribe.Json.Reader
import TestScribe.Decimal.Shortest

/-!
# Dates

Dates of the Gregorian calendar, written `YYYY-MM-DD`. The days are also numbered from 1970-01-01
on, which is how a count of seconds becomes a date.
-/

namespace TestScribe.Time

/-- A date. -/
structure Date where
  year : Nat
  month : Nat
  day : Nat
  deriving DecidableEq

/-- A number with at least `width` digits. -/
def digits (width n : Nat) : String :=
  Decimal.padZeros width (toString n)

/-- Whether a year has 366 days. -/
def isLeap (year : Nat) : Bool :=
  year % 4 == 0 && (year % 100 != 0 || year % 400 == 0)

/-- The number of days of a month, zero for what is no month. -/
def daysInMonth (year month : Nat) : Nat :=
  match month with
  | 1 | 3 | 5 | 7 | 8 | 10 | 12 => 31
  | 4 | 6 | 9 | 11 => 30
  | 2 => if isLeap year then 29 else 28
  | _ => 0

namespace Date

/-- A date in digits. -/
def text (d : Date) : String :=
  digits 4 d.year ++ "-" ++ digits 2 d.month ++ "-" ++ digits 2 d.day

/-! ## Day numbers

Years are counted from March on, so that the day a leap year adds is the last of the year. Four
hundred years have 146097 days. -/

/-- The date of a day of the four hundred years that begin on 1 March of the year zero, or of those
`era` times later. -/
def ofDayOfEra (era : Nat) (day : Nat) : Date :=
  let yearOfEra := (day - day / 1460 + day / 36524 - day / 146096) / 365
  let dayOfYear := day - (365 * yearOfEra + yearOfEra / 4 - yearOfEra / 100)
  let shifted := (5 * dayOfYear + 2) / 153
  let month := if shifted < 10 then shifted + 3 else shifted - 9
  { year := yearOfEra + era * 400 + (if month ≤ 2 then 1 else 0)
    month := month
    day := dayOfYear - (153 * shifted + 2) / 5 + 1 }

/-- The date of the day `n`, counted from 1970-01-01; days before the year zero are not dates. -/
def ofDayNumber? (n : Int) : Option Date :=
  let day : Int := n + 719528
  if day < 0 then none
  else if day < 60 then
    let d := day.toNat
    some (if d < 31 then { year := 0, month := 1, day := d + 1 }
      else { year := 0, month := 2, day := d - 30 })
  else
    let d := day.toNat - 60
    some (ofDayOfEra (d / 146097) (d % 146097))

/-! ## Reading -/

/-- Why a text is not a date. -/
inductive Fault
  | tooShort
  | badYear
  | badMonth
  | badDay
  | badSeparator
  | monthOutOfRange
  | dayOutOfRange
  | extraCharacters
  | afterCalendar
  | beforeCalendar
  | notANumber

/-- The words for a fault. -/
def Fault.message : Fault → String
  | tooShort => "input is too short"
  | badYear => "invalid character in year"
  | badMonth => "invalid character in month"
  | badDay => "invalid character in day"
  | badSeparator => "invalid date separator, expected \x60-\x60"
  | monthOutOfRange => "month value is outside expected range of 1-12"
  | dayOutOfRange => "day value is outside expected range"
  | extraCharacters => "unexpected extra characters at the end of the input"
  | afterCalendar => "dates after 9999 are not supported as unix timestamps"
  | beforeCalendar => "dates before 0000 are not supported as unix timestamps"
  | notANumber => "NaN values not permitted"

/-- The number that some digits stand for. -/
def numberOf? (fault : Fault) (cs : List Char) : Except Fault Nat :=
  if cs.all Json.isDigit then .ok (Json.digitsValue cs) else .error fault

/-- A mark between two numbers. -/
def mark (c : Option Char) : Except Fault Unit :=
  if c == some '-' then .ok () else .error .badSeparator

/-- The date that stands at the beginning of a text, and the rest of the text. -/
def readFront (s : List Char) : Except Fault (Date × List Char) := do
  if (String.ofList s).utf8ByteSize < 10 then throw .tooShort
  let year ← numberOf? .badYear (s.take 4)
  mark s[4]?
  let month ← numberOf? .badMonth ((s.drop 5).take 2)
  mark s[7]?
  let day ← numberOf? .badDay ((s.drop 8).take 2)
  if daysInMonth year month == 0 then throw .monthOutOfRange
  if day < 1 || daysInMonth year month < day then throw .dayOutOfRange
  return ({ year, month, day }, s.drop 10)

/-- The date that a text is. -/
def read (s : List Char) : Except Fault Date := do
  let (d, rest) ← readFront s
  if rest.isEmpty then return d else throw .extraCharacters

end Date

end TestScribe.Time
