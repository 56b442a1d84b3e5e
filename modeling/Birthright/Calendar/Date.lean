/-!
# Calendar dates

Dates of the Gregorian calendar, which is extended to all years; the year before year 1 is year 0.
A `Date` is a day that exists, in a year from `firstYear` to `lastYear`.

`Date.dayNumber` counts the days; day 1 is the first day of year 1, a Monday.
-/

namespace Birthright.Calendar

/-- The earliest year of a date. -/
def firstYear : Int := -262143

/-- The latest year of a date. -/
def lastYear : Int := 262142

/-- A leap year has 366 days. -/
def isLeap (y : Int) : Bool := y % 4 = 0 && (y % 100 ≠ 0 || y % 400 = 0)

/-- How many days a year has. -/
def yearLength (y : Int) : Nat := if isLeap y then 366 else 365

/-- How many days a month has; the months count from 1. -/
def monthLength (y : Int) (m : Nat) : Nat :=
  if m = 2 then if isLeap y then 29 else 28
  else if m = 4 ∨ m = 6 ∨ m = 9 ∨ m = 11 then 30
  else 31

/-- How many days of a year come before a month. -/
def daysBeforeMonth (y : Int) : Nat → Nat
  | 0 => 0
  | 1 => 0
  | m + 2 => daysBeforeMonth y (m + 1) + monthLength y (m + 1)

/-- The number of the last day before a year. -/
def daysBeforeYear (y : Int) : Int :=
  365 * (y - 1) + (y - 1) / 4 - (y - 1) / 100 + (y - 1) / 400

/-- A day of the calendar. -/
structure Date where
  year : Int
  month : Nat
  day : Nat
  year_mem : firstYear ≤ year ∧ year ≤ lastYear
  month_mem : 1 ≤ month ∧ month ≤ 12
  day_mem : 1 ≤ day ∧ day ≤ monthLength year month
  deriving DecidableEq

namespace Date

/-- The date with a year, month and day, if there is one. -/
def of? (y : Int) (m d : Nat) : Option Date :=
  if h : (firstYear ≤ y ∧ y ≤ lastYear) ∧ (1 ≤ m ∧ m ≤ 12) ∧ 1 ≤ d ∧ d ≤ monthLength y m then
    some ⟨y, m, d, h.1, h.2.1, h.2.2⟩
  else none

/-- Which day of its year a date is, from 1. -/
def ordinal (d : Date) : Nat := daysBeforeMonth d.year d.month + d.day

/-- Which day a date is when all days are counted. -/
def dayNumber (d : Date) : Int := daysBeforeYear d.year + d.ordinal

/-- The day of the week, from 0 for Monday to 6 for Sunday. -/
def weekday (d : Date) : Nat := ((d.dayNumber - 1) % 7).toNat

/-- The date of a day of a year. -/
def ofOrdinal? (y : Int) (n : Nat) : Option Date :=
  (List.range' 1 12).findSome? fun m =>
    if daysBeforeMonth y m < n then of? y m (n - daysBeforeMonth y m) else none

/--
The date with a day number. Four years can hold the day, since 400 years have 146097 days.
-/
def ofDayNumber? (n : Int) : Option Date :=
  (List.range 4).findSome? fun (i : Nat) =>
    let y := n * 400 / 146097 - 1 + i
    if daysBeforeYear y < n then ofOrdinal? y (n - daysBeforeYear y).toNat else none

/-- The day after. -/
def succ? (d : Date) : Option Date :=
  of? d.year d.month (d.day + 1) <|> of? d.year (d.month + 1) 1 <|> of? (d.year + 1) 1 1

/-- The day before. -/
def pred? (d : Date) : Option Date :=
  of? d.year d.month (d.day - 1)
    <|> of? d.year (d.month - 1) (monthLength d.year (d.month - 1))
    <|> of? (d.year - 1) 12 31

/-! ## Months -/

/-- Which month a date lies in when all months are counted. -/
def monthIndex (d : Date) : Int := d.year * 12 + (d.month - 1)

/-- The same day some months later, or the last day of that month if it is shorter. -/
def addMonths? (d : Date) (n : Nat) : Option Date :=
  let index := d.monthIndex + n
  let y := index / 12
  let m := (index % 12).toNat + 1
  of? y m (min d.day (monthLength y m))

/-- The first day of the month after that of the date. -/
def nextMonth? (d : Date) : Option Date :=
  if d.month = 12 then of? (d.year + 1) 1 1 else of? d.year (d.month + 1) 1

/--
How many days the month of the date has: the day before the next month is its last. No month
follows the last December, which has 31 days.
-/
def daysInMonth (d : Date) : Nat :=
  match d.nextMonth?.bind pred? with
  | some last => last.day
  | none => 31

/-! ## Weeks -/

/-- How many weeks of the year have begun up to the date when weeks begin on Sunday. -/
def weekFromSunday (d : Date) : Nat := (d.ordinal + 6 - (d.weekday + 1) % 7) / 7

/-- How many weeks of the year have begun up to the date when weeks begin on Monday. -/
def weekFromMonday (d : Date) : Nat := (d.ordinal + 6 - d.weekday) / 7

/--
The year and the number of the date's week, which runs from Monday to Sunday and belongs to the
year of its Thursday.
-/
def isoWeek (d : Date) : Int × Nat :=
  let thursday : Int := d.ordinal - d.weekday + 3
  let (y, n) :=
    if thursday < 1 then (d.year - 1, thursday + yearLength (d.year - 1))
    else if thursday ≤ yearLength d.year then (d.year, thursday)
    else (d.year + 1, thursday - yearLength d.year)
  (y, ((n - 1) / 7 + 1).toNat)

/-- The date with a week number and a day of the week, in the year to which the week belongs. -/
def ofIsoWeek? (y : Int) (week weekday : Nat) : Option Date :=
  let fourth := daysBeforeYear y + 4
  let monday := fourth - (fourth - 1) % 7
  (ofDayNumber? (monday + 7 * (week - 1) + weekday)).filter (·.isoWeek = (y, week))

/--
The date in a year with a day of the week, in a week that is counted from the first one to begin
in the year. `start` and `weekday` count the days from Monday.
-/
def ofWeek? (start : Nat) (y : Int) (week weekday : Nat) : Option Date := do
  let first ← of? y 1 1
  let weekStart : Int := 1 + (start + 7 - first.weekday) % 7
  let n := weekStart + 7 * (week - 1) + ((weekday + 7 - start) % 7 : Nat)
  if n ≤ 0 then none else ofOrdinal? y n.toNat

end Date

example : (Date.of? 2000 2 29).map Date.weekday = some 1 := by decide
example : (Date.of? 2010 1 3).map Date.isoWeek = some (2009, 53) := by decide
example : (Date.ofIsoWeek? 2009 53 6).map Date.dayNumber
    = (Date.of? 2010 1 3).map Date.dayNumber := by decide +kernel

end Birthright.Calendar
