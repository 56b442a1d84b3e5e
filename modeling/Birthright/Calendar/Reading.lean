import Birthright.Calendar.Date

/-!
# What a text says about a date

Reading a date goes through the single facts that its text states: a year, a month, a day of the
week and so on. `Reading` collects them. A fact may be stated twice but not in two ways, and
`Reading.date?` gives the one date that agrees with all facts, if they are enough to find it.
-/

namespace Birthright.Calendar

/-- The facts a text can state. -/
inductive Field where
  | year
  /-- The year without its last two digits. -/
  | century
  /-- The last two digits of the year. -/
  | yearOfCentury
  /-- The year to which the week belongs. -/
  | weekYear
  /-- The last two digits of the year to which the week belongs. -/
  | weekYearOfCentury
  | quarter
  | month
  | day
  | ordinal
  | weekFromSunday
  | weekFromMonday
  | isoWeek
  /-- Counted from 0 for Monday. -/
  | weekday
  /-- 0 before noon and 1 from noon on. -/
  | halfOfDay
  | hourOfHalf
  | minute
  | second
  | nanosecond
  /-- Seconds from the beginning of 1970. -/
  | timestamp
  /-- Seconds by which the clock is ahead of universal time. -/
  | offset
  deriving DecidableEq, Repr

/-- The facts stated so far. -/
abbrev Reading : Type := List (Field × Int)

namespace Reading

/-- What has been stated about a field. -/
def get? (r : Reading) (f : Field) : Option Int := (r.find? (·.1 = f)).map (·.2)

/-- States a fact; none when the opposite has been stated. -/
def state? (r : Reading) (f : Field) (v : Int) : Option Reading :=
  match r.get? f with
  | none => some ((f, v) :: r)
  | some w => if v = w then some r else none

/-- States several facts. -/
def stateAll? (r : Reading) (facts : List (Field × Int)) : Option Reading :=
  facts.foldlM (fun r f => r.state? f.1 f.2) r

/-- Whether nothing but `v` has been stated about a field. -/
def allows (r : Reading) (f : Field) (v : Int) : Bool := (r.get? f).all (· = v)

/--
Completes a year that may be given without its last two digits and by its last two digits. Two
digits alone stand for a year from 1970 to 2069. None when the facts contradict each other or
leave the last digits open; `some none` when nothing is said about the year.
-/
def completeYear? : (full hundreds lastTwo : Option Int) → Option (Option Int)
  | some y, none, none => some (some y)
  | some y, c, n =>
    if 0 ≤ y ∧ c.all (· = y / 100) ∧ n.all (· = y % 100) then some (some y) else none
  | none, some c, some n => some (some (c * 100 + n))
  | none, none, some n => some (some (n + if n < 70 then 2000 else 1900))
  | none, some _, none => none
  | none, none, none => some none

/-- The first date that the facts determine. -/
def candidate? (r : Reading) (year weekYear : Option Int) : Option Date :=
  match year, r.get? .month, r.get? .day with
  | some y, some m, some d => Date.of? y m.toNat d.toNat
  | _, _, _ =>
  match year, r.get? .ordinal with
  | some y, some n => Date.ofOrdinal? y n.toNat
  | _, _ =>
  match year, r.get? .weekFromSunday, r.get? .weekday with
  | some y, some w, some d => Date.ofWeek? 6 y w.toNat d.toNat
  | _, _, _ =>
  match year, r.get? .weekFromMonday, r.get? .weekday with
  | some y, some w, some d => Date.ofWeek? 0 y w.toNat d.toNat
  | _, _, _ =>
  match weekYear, r.get? .isoWeek, r.get? .weekday with
  | some y, some w, some d => Date.ofIsoWeek? y w.toNat d.toNat
  | _, _, _ => none

/-- Whether a year, stated in full or by its digits, is the given one. -/
def allowsYear (r : Reading) (full hundreds lastTwo : Field) (y : Int) : Bool :=
  r.allows full y &&
    if 0 ≤ y then r.allows hundreds (y / 100) && r.allows lastTwo (y % 100)
    else (r.get? hundreds).isNone && (r.get? lastTwo).isNone

/-- Whether a date contradicts none of the facts. -/
def admits (r : Reading) (d : Date) : Bool :=
  let (weekYear, week) := d.isoWeek
  r.allowsYear .year .century .yearOfCentury d.year
    && r.allows .month d.month && r.allows .day d.day
    && r.allows .ordinal d.ordinal
    && r.allows .weekFromSunday d.weekFromSunday && r.allows .weekFromMonday d.weekFromMonday
    && r.allows .weekYear weekYear
    && (if 0 ≤ weekYear then r.allows .weekYearOfCentury (weekYear % 100)
        else (r.get? .weekYearOfCentury).isNone)
    && r.allows .isoWeek week && r.allows .weekday d.weekday
    && r.allows .quarter ((d.month - 1) / 3 + 1 : Nat)

/-- The date that the facts determine and that agrees with all of them. -/
def date? (r : Reading) : Option Date := do
  let year ← completeYear? (r.get? .year) (r.get? .century) (r.get? .yearOfCentury)
  let weekYear ← completeYear? (r.get? .weekYear) none (r.get? .weekYearOfCentury)
  (r.candidate? year weekYear).filter r.admits

end Reading

end Birthright.Calendar
