import Birthright.Calendar.Date
import Birthright.Json.Written

/-!
# Age gaps

The time between two dates in whole years, months and days. When the later date comes first in
its month, a month is borrowed: the days are then counted from the earlier date moved on by the
remaining months, which may end on the last day of a shorter month. When the dates are given in
the wrong order the parts are negative or zero.
-/

namespace Birthright.Calendar

/-- Whole years, then months, then days. -/
structure AgeGap where
  years : Int
  months : Int
  days : Int
  deriving DecidableEq, Repr

namespace AgeGap

/-- Years and months from a number of months, rounded towards zero. -/
def ofMonths (months days : Int) : AgeGap := ⟨months.tdiv 12, months.tmod 12, days⟩

/-- How many days after the earlier date, moved on by some months, the later date comes. -/
def daysAfterMonths? (earlier later : Date) (months : Nat) : Option Int :=
  (earlier.addMonths? months).map fun anchor => later.dayNumber - anchor.dayNumber

/-- The gap from one date to another. -/
def between (earlier later : Date) : AgeGap :=
  let months := later.monthIndex - earlier.monthIndex
  let days : Int := later.day - earlier.day
  if 0 < months ∧ days < 0 then
    ofMonths (months - 1) ((daysAfterMonths? earlier later (months - 1).toNat).getD days)
  else if months < 0 ∧ 0 < days then ofMonths (months + 1) (days - later.daysInMonth)
  else ofMonths months days

/-! ## Stored form -/

/-- The names of a gap's parts in the stored form. -/
def partNames : List String := ["years", "months", "days"]

/-- The value that is stored for an age gap. -/
def toJson (g : AgeGap) : Json := .obj (partNames.zip [.int g.years, .int g.months, .int g.days])

open Json.Written in
/-- Reads an age gap from its stored form. -/
def ofWritten? (w : Json.Written) : Option AgeGap := do
  match ← w.parts? partNames partNames.length with
  | [years, months, days] =>
    return { years := ← required? signed32? years
             months := ← required? signed32? months
             days := ← required? signed32? days }
  | _ => none

end AgeGap

/-- Whole years from one date to another. -/
def yearsBetween (earlier later : Date) : Int := (AgeGap.between earlier later).years

/-- Whether at least a number of whole years lie between two dates. -/
def gapAtLeast (earlier later : Date) (years : UInt32) : Bool :=
  (years.toNat : Int) ≤ yearsBetween earlier later

example : (do return AgeGap.between (← Date.of? 2000 2 29) (← Date.of? 2015 2 28))
    = some ⟨14, 11, 30⟩ := by decide
example : (do return AgeGap.between (← Date.of? 1975 3 20) (← Date.of? 2005 6 1))
    = some ⟨30, 2, 12⟩ := by decide

end Birthright.Calendar
