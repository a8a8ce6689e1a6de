import DataplaneSync.Text.Blank
import DataplaneSync.Text.Numeral

namespace DataplaneSync

/-!
# Timestamps

Instants in universal time and their texts.

* `Date` — a day of the Gregorian calendar, counted from 1970-01-01 by `Date.dayNumber`.
* `Timestamp.toText` — year to second, with three, six or nine digits of a fraction where the
  instant has one.
* `Timestamp.ofText?` — reads such texts with any offset; blanks may stand before each number
  and separator, and the zone may be `UTC`.

A leap second is written as second 60 and counted in the fraction of the second before it.
-/

open Text

/-! ### The calendar -/

/-- A day of the Gregorian calendar. -/
structure Date where
  year : Int
  month : Nat
  day : Nat
  deriving DecidableEq

namespace Date

/-- Whether a year has a 29th of February. -/
def isLeap (year : Int) : Bool := year % 4 == 0 && (year % 100 != 0 || year % 400 == 0)

/-- The number of days of a month. -/
def daysInMonth (year : Int) (month : Nat) : Nat :=
  if month = 2 then if isLeap year then 29 else 28
  else if month = 4 ∨ month = 6 ∨ month = 9 ∨ month = 11 then 30
  else 31

/-- Whether the calendar has the day. -/
def isValid (d : Date) : Bool :=
  1 ≤ d.month && d.month ≤ 12 && 1 ≤ d.day && d.day ≤ daysInMonth d.year d.month

/-- The days since 1970-01-01.  Years are counted from March, so that leap days end them. -/
def dayNumber (d : Date) : Int :=
  let year := if d.month ≤ 2 then d.year - 1 else d.year
  let month : Int := (d.month + 9) % 12
  let dayOfYear := (153 * month + 2) / 5 + d.day - 1
  365 * year + year / 4 - year / 100 + year / 400 + dayOfYear - 719468

/-- The years that instants may fall into. -/
def isYear (year : Int) : Bool := -262143 ≤ year && year ≤ 262142

/-- The day with a number. -/
def ofDayNumber (n : Int) : Date :=
  let n := n + 719468
  let era := n / 146097
  let dayOfEra := n % 146097
  let yearOfEra := (dayOfEra - dayOfEra / 1460 + dayOfEra / 36524 - dayOfEra / 146096) / 365
  let dayOfYear := dayOfEra - (365 * yearOfEra + yearOfEra / 4 - yearOfEra / 100)
  let month := (5 * dayOfYear + 2) / 153
  let day := dayOfYear - (153 * month + 2) / 5 + 1
  let month := if month < 10 then month + 3 else month - 9
  let year := yearOfEra + 400 * era
  ⟨if month ≤ 2 then year + 1 else year, month.toNat, day.toNat⟩

end Date

/-! ### Instants -/

/-- An instant in universal time. -/
structure Timestamp where
  /-- Whole seconds since 1970-01-01. -/
  seconds : Int
  /-- Nanoseconds since then; a leap second counts a thousand million on. -/
  nanos : Nat
  deriving DecidableEq

namespace Timestamp

/-- The day of an instant. -/
def date (t : Timestamp) : Date := Date.ofDayNumber (t.seconds / 86400)

/-- Whether the instant falls into the years that count, and its fraction does not pass a
second unless it is a leap second. -/
def isValid (t : Timestamp) : Bool :=
  Date.isYear t.date.year &&
    (t.nanos < 1000000000 || (t.nanos < 2000000000 && t.seconds % 60 == 59))

/-- A number of two digits. -/
def two (n : Nat) : List Char := padded 2 (decimal n)

/-- A year in four digits, with a sign beyond the year 9999 and before the year 0. -/
def yearText (y : Int) : List Char :=
  if 0 ≤ y ∧ y ≤ 9999 then padded 4 (decimal y.toNat)
  else (if y < 0 then '-' else '+') :: padded 4 (decimal y.natAbs)

/-- The fraction of a second in as few groups of three digits as are exact. -/
def fractionText (nanos : Nat) : List Char :=
  if nanos = 0 then []
  else if nanos % 1000000 = 0 then '.' :: padded 3 (decimal (nanos / 1000000))
  else if nanos % 1000 = 0 then '.' :: padded 6 (decimal (nanos / 1000))
  else '.' :: padded 9 (decimal nanos)

/-- The written instant. -/
def toText (t : Timestamp) : String :=
  let date := t.date
  let second := (t.seconds % 86400).toNat
  let leap := if t.nanos < 1000000000 then 0 else 1
  String.ofList
    (yearText date.year ++ '-' :: two date.month ++ '-' :: two date.day ++
      'T' :: two (second / 3600) ++ ':' :: two (second / 60 % 60) ++
      ':' :: two (second % 60 + leap) ++ fractionText (t.nanos - leap * 1000000000) ++ ['Z'])

/-! ### Reading -/

/-- Up to `most` digits at the start of a text, at least one, with the text behind them. -/
def number? (most : Nat) (cs : List Char) : Option (Nat × List Char) :=
  let digits := (cs.take most).takeWhile (isDigitOf 10)
  (value? 10 digits).map fun n => (n, cs.drop digits.length)

/-- The text behind leading blanks. -/
def skipBlanks (cs : List Char) : List Char := cs.dropWhile isBlank

/-- The text behind blanks and the given character. -/
def behind? (c : Char) (cs : List Char) : Option (List Char) :=
  match skipBlanks cs with
  | x :: rest => if x = c then some rest else none
  | [] => none

/-- A number of up to two digits behind blanks. -/
def twoDigits? (cs : List Char) : Option (Nat × List Char) := number? 2 (skipBlanks cs)

/-- A year behind blanks: up to four digits, or a sign and any number of digits. -/
def year? (cs : List Char) : Option (Int × List Char) :=
  match skipBlanks cs with
  | '-' :: rest => (number? rest.length rest).map fun (n, r) => (-(n : Int), r)
  | '+' :: rest => (number? rest.length rest).map fun (n, r) => ((n : Int), r)
  | rest => (number? 4 rest).map fun (n, r) => ((n : Int), r)

/-- The fraction of a second in nanoseconds; digits behind the ninth are passed over. -/
def fraction? : List Char → Option (Nat × List Char)
  | '.' :: rest =>
    let digits := (rest.take 9).takeWhile (isDigitOf 10)
    (value? 10 digits).map fun n =>
      (n * Nat.pow 10 (9 - digits.length), rest.dropWhile (isDigitOf 10))
  | cs => some (0, cs)

/-- Two digits, with the text behind them. -/
def pair? : List Char → Option (Nat × List Char)
  | a :: b :: rest => (value? 10 [a, b]).map fun n => (n, rest)
  | _ => none

/-- An offset behind its sign, in seconds: two digits for the hours and two for the minutes,
with colons and blanks between them. -/
def offset? (cs : List Char) : Option (Nat × List Char) := do
  let (hours, rest) ← pair? cs
  let (minutes, rest) ← pair? (rest.dropWhile fun c => c == ':' || isBlank c)
  if minutes < 60 then some (3600 * hours + 60 * minutes, rest) else none

/-- The offset of a zone in seconds, with the text behind it. -/
def zone? (cs : List Char) : Option (Int × List Char) :=
  match cs with
  | 'Z' :: rest => some (0, rest)
  | 'z' :: rest => some (0, rest)
  | '+' :: rest => (offset? rest).map fun (n, r) => ((n : Int), r)
  | '-' :: rest => (offset? rest).map fun (n, r) => (-(n : Int), r)
  | '\u2212' :: rest => (offset? rest).map fun (n, r) => (-(n : Int), r)
  | u :: t :: c :: rest =>
    if [u, t, c].map Char.toUpper = ['U', 'T', 'C'] then some (0, rest) else none
  | _ => none

/-- The text behind the letter or the blank between date and time. -/
def behindDate? : List Char → Option (List Char)
  | c :: rest => if c = 't' ∨ c = 'T' ∨ c = ' ' then some rest else none
  | [] => none

/-- The instant that a text spells, if it spells one.  Both its date as written and its date in
universal time fall into the years that count. -/
def ofText? (text : String) : Option Timestamp := do
  let (year, cs) ← year? text.toList
  let (month, cs) ← twoDigits? (← behind? '-' cs)
  let (day, cs) ← twoDigits? (← behind? '-' cs)
  let (hour, cs) ← twoDigits? (← behindDate? cs)
  let (minute, cs) ← twoDigits? (← behind? ':' cs)
  let (second, cs) ← twoDigits? (← behind? ':' cs)
  let (nanos, cs) ← fraction? cs
  let (offset, cs) ← zone? (skipBlanks cs)
  let date : Date := ⟨year, month, day⟩
  let leap := if second = 60 then 1 else 0
  let sinceMidnight := 3600 * hour + 60 * minute + (second - leap)
  let t : Timestamp := ⟨86400 * date.dayNumber + sinceMidnight - offset, nanos + leap * 1000000000⟩
  if (skipBlanks cs).isEmpty ∧ date.isValid ∧ Date.isYear year ∧ Date.isYear t.date.year ∧
      hour < 24 ∧ minute < 60 ∧ second ≤ 60 ∧ offset.natAbs < 86400 then some t
  else none

end Timestamp

end DataplaneSync
