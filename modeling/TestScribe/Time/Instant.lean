import TestScribe.Time.Date
import TestScribe.Wire.Scalar

/-!
# Instants

A date with a time of day in microseconds and, unless the place is left open, the offset from
universal time in minutes. Instants are written as `YYYY-MM-DDTHH:MM:SS`, then the fraction if there
is one, then the offset. They are read from that form and its variants, from a date alone, and from
a count of seconds since 1970, or of milliseconds where seconds would lie too far away.
-/

namespace TestScribe.Time

/-- A point in time as it is written down. -/
structure Instant where
  date : Date
  hour : Nat
  minute : Nat
  second : Nat
  micro : Nat
  offset : Option Int
  deriving DecidableEq

namespace Instant

/-! ## Writing -/

/-- The fraction of a second behind a point, empty if it is zero. -/
def fractionText (micro : Nat) : String :=
  if micro == 0 then "" else "." ++ digits 6 micro

/-- An offset as hours and minutes with a sign. -/
def signedOffset (minutes : Int) : String :=
  (if minutes < 0 then "-" else "+") ++ digits 2 (minutes.natAbs / 60) ++ ":" ++
    digits 2 (minutes.natAbs % 60)

/-- An offset, `zero` for none from universal time; nothing if the place is left open. -/
def offsetText (zero : String) : Option Int → String
  | none => ""
  | some m => if m == 0 then zero else signedOffset m

/-- An instant in which `zero` stands for universal time. -/
def textWith (zero : String) (t : Instant) : String :=
  t.date.text ++ "T" ++ digits 2 t.hour ++ ":" ++ digits 2 t.minute ++ ":" ++ digits 2 t.second ++
    fractionText t.micro ++ offsetText zero t.offset

/-- An instant with `Z` for universal time. -/
def text (t : Instant) : String :=
  t.textWith "Z"

/-! ## Counts of seconds -/

/-- The last second of the calendar. -/
def lastSecond : Int := 253402300799

/-- The first second of the calendar. -/
def firstSecond : Int := -62167219200

/-- The count beyond which milliseconds are meant. -/
def secondsLimit : Nat := 20000000000

/-- The instant `seconds` after the beginning of 1970 and the fraction of a second after that, in
universal time. -/
def ofSeconds (seconds : Int) (micro : Nat) : Except Date.Fault Instant :=
  if lastSecond < seconds then .error .afterCalendar
  else if seconds < firstSecond then .error .beforeCalendar
  else
    match Date.ofDayNumber? (Int.fdiv seconds 86400) with
    | none => .error .beforeCalendar
    | some date =>
      let s := (Int.fmod seconds 86400).toNat
      .ok { date, hour := s / 3600, minute := s / 60 % 60, second := s % 60, micro,
            offset := some 0 }

/-- The instant of a count: of seconds, or of milliseconds if it is large; `micro` is added. -/
def ofCount (count : Int) (micro : Nat) : Except Date.Fault Instant :=
  if count.natAbs ≤ secondsLimit then ofSeconds (count + micro / 1000000) (micro % 1000000)
  else
    let total := Int.fmod count 1000 * 1000 + micro
    ofSeconds (Int.fdiv count 1000 + Int.fdiv total 1000000) (Int.fmod total 1000000).toNat

/-- The part of a number behind its point, without the sign. -/
def fractionOf (x : Float) : Float :=
  if x < 0.0 then x.ceil - x else x - x.floor

/-- The instant of a number that is no integer: the next integer below it, with its fraction
added. -/
def ofNumber (x : Float) : Except Date.Fault Instant :=
  match Decimal.Reading.ofFloat x with
  | .notANumber => .error .notANumber
  | .infinite negative => .error (if negative then .beforeCalendar else .afterCalendar)
  | .finite b =>
    let floor : Int := if b.negative && !b.isInteger then b.truncate - 1 else b.truncate
    let micro := (Decimal.truncate? (fractionOf x * 1000000.0).round).getD 0
    ofCount floor micro.toNat

/-! ## Reading texts -/

/-- Two digits at the beginning of a text, and the rest. -/
def twoDigits? : List Char → Option (Nat × List Char)
  | a :: b :: r =>
    if Json.isDigit a && Json.isDigit b then some (Json.digitsValue [a, b], r) else none
  | _ => none

/-- Digits behind a point as a count of microseconds, cut after six places. -/
def microOf (ds : List Char) : Nat :=
  let shown := ds.take 6
  Json.digitsValue (shown ++ List.replicate (6 - shown.length) '0')

/-- The seconds behind the minutes, both zero if they are left out. -/
def readSeconds? : List Char → Option (Nat × Nat × List Char)
  | ':' :: r => do
    let (second, rest) ← twoDigits? r
    if 59 < second then none
    match rest with
    | c :: after =>
      if c == '.' || c == ',' then
        let ds := after.takeWhile Json.isDigit
        if ds.isEmpty then none else return (second, microOf ds, after.drop ds.length)
      else return (second, 0, rest)
    | [] => return (second, 0, [])
  | r => some (0, 0, r)

/-- The sign of an offset. -/
def offsetSign? (c : Char) : Option Int :=
  if c == '+' then some 1 else if c == '-' || c.toNat == 0x2212 then some (-1) else none

/-- The offset that a text is. -/
def readOffset? : List Char → Option (Option Int)
  | [] => some none
  | [c] => if c == 'Z' || c == 'z' then some (some 0) else none
  | c :: r => do
    let sign ← offsetSign? c
    let (hours, rest) ← twoDigits? r
    let (minutes, after) ← twoDigits? (match rest with
      | ':' :: q => q
      | q => q)
    if after.isEmpty && minutes < 60 && hours < 24 then
      return some (sign * (hours * 60 + minutes : Nat))
    else none

/-- The mark between a date and a time. -/
def isTimeMark (c : Char) : Bool :=
  c == 'T' || c == 't' || c == '_' || c == ' '

/-- The instant that a text spells out. -/
def readText? (s : List Char) : Option Instant := do
  let (date, rest) ← (Date.readFront s).toOption
  match rest with
  | c :: r =>
    if isTimeMark c then
      let (hour, r) ← twoDigits? r
      match r with
      | ':' :: r =>
        let (minute, r) ← twoDigits? r
        if 23 < hour || 59 < minute then none
        else
          let (second, micro, r) ← readSeconds? r
          let offset ← readOffset? r
          return { date, hour, minute, second, micro, offset }
      | _ => none
    else none
  | [] => none

/-- The largest count. -/
def countLimit : Nat := 9223372036854775807

/-- The integer that a text of digits stands for, unless it is too large for a count. -/
def integerOf? (s : List Char) : Option Int :=
  let (negative, digits) := Wire.splitSign s
  let n := Json.digitsValue digits
  if digits.isEmpty || !digits.all Json.isDigit || countLimit < n then none
  else some (if negative then -n else n)

/-- The microseconds behind the point of a count: `places` digits make whole microseconds, and of
more digits the rest is rounded, a half up. A text with a minus sign stands for nothing. -/
def microBehind? (places : Nat) (s : List Char) : Option Nat := do
  let n := (← integerOf? s).toNat
  let unit := Nat.pow 10 (s.length - places)
  return if s.length ≤ places then n * Nat.pow 10 (places - s.length)
    else (2 * n + unit) / (2 * unit)

/-- The count that a text of digits stands for, with the microseconds behind its point. -/
def countOf? (s : List Char) : Option (Int × Nat) := do
  let whole := s.takeWhile (· != '.')
  let n ← integerOf? whole
  match s.drop (whole.length + 1) with
  | [] => return (n, 0)
  | fraction =>
    let places := if (secondsLimit : Int) < n then 3 else 6
    return (n, ← microBehind? places fraction)

/-- The beginning of a day. -/
def midnight (date : Date) : Instant :=
  { date, hour := 0, minute := 0, second := 0, micro := 0, offset := none }

/-- The instant that a count in digits stands for. -/
def ofDigits? (s : List Char) : Option (Except Date.Fault Instant) :=
  (countOf? s).map fun (n, micro) => ofCount n micro

/-- The instant that a text stands for. What is wrong with a count is said only of integers. -/
def ofText (s : List Char) : Except Date.Fault Instant :=
  match readText? s, ofDigits? s with
  | some t, _ => .ok t
  | none, some (.ok t) => .ok t
  | none, some (.error f) => if s.contains '.' then (Date.read s).map midnight else .error f
  | none, none => (Date.read s).map midnight

/-! ## Reading values -/

/-- Read an instant. -/
def read (v : Json) : Wire.Checked Instant :=
  let counted (r : Except Date.Fault Instant) : Wire.Checked Instant :=
    match r with
    | .ok t => .ok t
    | .error f => Wire.refuse (.unreadableInstant f.message) v
  match v with
  | .int n => counted (ofCount n 0)
  | .float x => counted (ofNumber x)
  | .str s =>
    match ofText s.toList with
    | .ok t => .ok t
    | .error f => Wire.refuse (.unreadableDate f.message) v
  | _ => Wire.refuse .notInstant v

/-- An instant as JSON. -/
def toJson (t : Instant) : Json :=
  .str t.text

end Instant

end TestScribe.Time
