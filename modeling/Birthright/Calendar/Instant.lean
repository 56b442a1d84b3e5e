import Birthright.Calendar.Pattern

/-!
# Instants

An instant is a second of universal time and a fraction of it. Its text has a date and a time with
a `T` between them and a `Z` at the end. A second numbered 60 is a leap second.

Reading accepts more than writing produces: a time that is ahead of universal time or behind it,
shorter numbers, and blanks. Such an instant is moved to universal time.
-/

namespace Birthright.Calendar

/-- A moment of universal time. -/
structure Instant where
  date : Date
  hour : Nat
  minute : Nat
  second : Nat
  nanosecond : Nat
  hour_lt : hour < 24
  minute_lt : minute < 60
  second_le : second ≤ 60
  nanosecond_lt : nanosecond < 1000000000
  deriving DecidableEq

namespace Instant

/-- The instant with a date and a time of day, if the time exists. -/
def of? (date : Date) (hour minute second nanosecond : Nat) : Option Instant :=
  if h : hour < 24 ∧ minute < 60 ∧ second ≤ 60 ∧ nanosecond < 1000000000 then
    some ⟨date, hour, minute, second, nanosecond, h.1, h.2.1, h.2.2.1, h.2.2.2⟩
  else none

/-- The number of the first day of 1970. -/
def epochDay : Int := 719163

/-- The instant some seconds and nanoseconds after the beginning of 1970. -/
def ofUnixTime? (seconds : Int) (nanosecond : Nat) : Option Instant := do
  let date ← Date.ofDayNumber? (epochDay + seconds / 86400)
  let inDay := (seconds % 86400).toNat
  of? date (inDay / 3600) (inDay / 60 % 60) (inDay % 60) nanosecond

example : (Date.of? 1970 1 1).map Date.dayNumber = some epochDay := by decide

/-! ## Writing -/

/-- A year in four digits; one that does not fit has a sign and as many digits as it needs. -/
def yearText (y : Int) : List Char :=
  if 0 ≤ y ∧ y ≤ 9999 then Text.padded 4 y.toNat
  else (if y < 0 then '-' else '+') :: Text.padded 4 y.natAbs

/-- The date with hyphens. -/
def dateText (d : Date) : List Char :=
  yearText d.year ++ '-' :: (Text.padded 2 d.month ++ '-' :: Text.padded 2 d.day)

/-- The time of day with colons. -/
def clockText (t : Instant) : List Char :=
  Text.padded 2 t.hour ++ ':' :: (Text.padded 2 t.minute ++ ':' :: Text.padded 2 t.second)

/-- A point and the fraction of the second in 3, 6 or 9 digits, or nothing. -/
def fractionText (nanosecond : Nat) : List Char :=
  if nanosecond = 0 then []
  else if nanosecond % 1000000 = 0 then '.' :: Text.padded 3 (nanosecond / 1000000)
  else if nanosecond % 1000 = 0 then '.' :: Text.padded 6 (nanosecond / 1000)
  else '.' :: Text.padded 9 nanosecond

/-- The text of an instant. -/
def text (t : Instant) : String :=
  String.ofList (dateText t.date ++ 'T' :: (t.clockText ++ fractionText t.nanosecond ++ ['Z']))

/-- The text of an instant for a reader: to the second, with the zone spelled out. -/
def plainText (t : Instant) : String :=
  String.ofList (dateText t.date ++ ' ' :: (t.clockText ++ " UTC".toList))

/-! ## Reading -/

/-- Moves the time of a day to universal time when its clock is `ahead` minutes ahead. -/
def toUniversal? (t : Instant) (ahead : Int) : Option Instant := do
  let minutes : Int := t.hour * 60 + t.minute - ahead
  let date ←
    if minutes < 0 then t.date.pred?
    else if minutes < 24 * 60 then some t.date
    else t.date.succ?
  let inDay := (minutes % (24 * 60)).toNat
  of? date (inDay / 60) (inDay % 60) t.second t.nanosecond

/-- The instant that the facts of a text state. -/
def ofReading? (r : Reading) : Option Instant := do
  let date ← r.date?
  let hour := (← r.get? .halfOfDay) * 12 + (← r.get? .hourOfHalf)
  let nanosecond := (r.get? .nanosecond).getD 0
  let t ← of? date hour.toNat (← r.get? .minute).toNat (← r.get? .second).toNat nanosecond.toNat
  let ahead := (← r.get? .offset).tdiv 60
  if ahead.natAbs < 24 * 60 then t.toUniversal? ahead else none

/-- Reads a whole text as an instant. -/
def ofText? (s : String) : Option Instant := do
  let (r, rest) ← Item.readAll? Item.timestamp [] s.toList
  if (Text.skipBlanks rest).isEmpty then ofReading? r else none

example : (ofText? " 2024-2-29T23:30:60.5-01:00").map text = some "2024-03-01T00:30:60.500Z" := by
  decide +kernel

end Instant

end Birthright.Calendar
