import Mathlib.Data.Prod.Lex
import Birthright.Calendar.AgeGap

/-!
# When a number of years has passed

Whole years between two dates are counted by whole months, and both are rounded towards zero. That
somebody was born so many years later is then a comparison of years, months and days, as long as the
number is positive. For zero the rounding shows: less than a year are no whole years, also when the
dates are given in the wrong order.

* `Date.anniversary_le_iff` — years, months and days compared by counted months and days
* `le_yearsBetween_iff` — how many whole years lie between two dates
* `gapAtLeast_iff` — whether they are at least a number that is asked for
-/

namespace Birthright.Calendar

/-! ## The order of the calendar -/

namespace Date

/--
Year, month and day of a date some years later, in the order of the calendar. The 29th of February
stays what it is, also in a year that has none.
-/
def anniversary (d : Date) (years : Int) : Int ×ₗ Nat ×ₗ Nat :=
  toLex (d.year + years, toLex (d.month, d.day))

variable {d d' : Date} {m n : Int}

/-- Where months are counted, a comparison of days is left. -/
theorem anniversary_le_iff : d.anniversary m ≤ d'.anniversary n ↔
    d.monthIndex + 12 * m < d'.monthIndex + 12 * n ∨
      d.monthIndex + 12 * m = d'.monthIndex + 12 * n ∧ d.day ≤ d'.day := by
  have hmonth := d.month_mem
  have hmonth' := d'.month_mem
  simp only [anniversary, monthIndex, Prod.Lex.toLex_le_toLex]
  omega

theorem anniversary_lt_iff : d.anniversary m < d'.anniversary n ↔
    d.monthIndex + 12 * m < d'.monthIndex + 12 * n ∨
      d.monthIndex + 12 * m = d'.monthIndex + 12 * n ∧ d.day < d'.day := by
  have hmonth := d.month_mem
  have hmonth' := d'.month_mem
  simp only [anniversary, monthIndex, Prod.Lex.toLex_lt_toLex]
  omega

end Date

/-! ## Whole months and years -/

/-- Whole months from one date to another: the last one counts if it is complete. -/
def wholeMonths (earlier later : Date) : Int :=
  let months := later.monthIndex - earlier.monthIndex
  if 0 < months ∧ later.day < earlier.day then months - 1
  else if months < 0 ∧ earlier.day < later.day then months + 1
  else months

variable {earlier later : Date}

/-- **Years are counted by whole months**, and rounded towards zero. -/
theorem yearsBetween_eq (earlier later : Date) :
    yearsBetween earlier later = (wholeMonths earlier later).tdiv 12 := by
  have hless : (later.day : Int) - earlier.day < 0 ↔ later.day < earlier.day := by omega
  have hmore : 0 < (later.day : Int) - earlier.day ↔ earlier.day < later.day := by omega
  simp only [yearsBetween, AgeGap.between, wholeMonths, hless, hmore]
  split
  · rfl
  · split <;> rfl

/-- A positive number of months has passed when the day is reached that many months later. -/
theorem le_wholeMonths_iff {k : Int} (hk : 0 < k) : k ≤ wholeMonths earlier later ↔
    earlier.monthIndex + k < later.monthIndex ∨
      earlier.monthIndex + k = later.monthIndex ∧ earlier.day ≤ later.day := by
  unfold wholeMonths
  dsimp only
  split
  · omega
  · split <;> omega

/-- Less than a number of months is missing when the day is later than that many months before. -/
theorem neg_lt_wholeMonths_iff {k : Int} (hk : 0 < k) : -k < wholeMonths earlier later ↔
    earlier.monthIndex < later.monthIndex + k ∨
      earlier.monthIndex = later.monthIndex + k ∧ earlier.day < later.day := by
  unfold wholeMonths
  dsimp only
  split
  · omega
  · split <;> omega

/-- A quotient that is rounded towards zero is negative only from a whole dozen on. -/
theorem le_tdiv_twelve_iff {n k : Int} :
    n ≤ k.tdiv 12 ↔ if 0 < n then 12 * n ≤ k else 12 * (n - 1) < k := by
  have hsign : Int.sign 12 = 1 := rfl
  rw [Int.tdiv_eq_ediv, hsign]
  split <;> split <;> omega

/-- **How many whole years lie between two dates**: a positive number when the day is reached that
many years later, and no fewer than zero when less than a year is missing. -/
theorem le_yearsBetween_iff {n : Int} : n ≤ yearsBetween earlier later ↔
    if 0 < n then earlier.anniversary n ≤ later.anniversary 0
    else earlier.anniversary 0 < later.anniversary (1 - n) := by
  rw [yearsBetween_eq, le_tdiv_twelve_iff]
  by_cases hn : 0 < n
  · rw [if_pos hn, if_pos hn, le_wholeMonths_iff (by omega), Date.anniversary_le_iff]
    omega
  · have hmissing : 12 * (n - 1) = -(12 * (1 - n)) := by omega
    rw [if_neg hn, if_neg hn, hmissing, neg_lt_wholeMonths_iff (by omega), Date.anniversary_lt_iff]
    omega

/-! ## Minimum gaps -/

/--
**Whether at least a number of whole years lie between two dates**: exactly if the day that is so
many years after the first is reached, or none are asked for and the second date is less than a year
before the first.
-/
theorem gapAtLeast_iff (earlier later : Date) (years : UInt32) :
    gapAtLeast earlier later years = true ↔
      earlier.anniversary years.toNat ≤ later.anniversary 0 ∨
        years = 0 ∧ earlier.anniversary 0 < later.anniversary 1 := by
  rw [gapAtLeast, decide_eq_true_iff, le_yearsBetween_iff]
  by_cases hnone : years = 0
  · subst hnone
    have hreached : earlier.anniversary 0 ≤ later.anniversary 0 →
        earlier.anniversary 0 < later.anniversary 1 := by
      rw [Date.anniversary_le_iff, Date.anniversary_lt_iff]
      omega
    simpa using hreached
  · have hsome : (0 : Int) < years.toNat := by
      have hne : years.toNat ≠ 0 := fun h => hnone (UInt32.toNat_inj.mp h)
      omega
    rw [if_pos hsome]
    simp [hnone]

/-- **Who is younger may be old enough** if no years are asked for: here by one day. -/
theorem gapAtLeast_zero_of_younger :
    ¬∀ (earlier later : Date) (years : UInt32), gapAtLeast earlier later years = true ↔
      earlier.anniversary years.toNat ≤ later.anniversary 0 := by
  intro h
  have hreached := (h ⟨2005, 6, 2, by decide, by decide, by decide⟩
    ⟨2005, 6, 1, by decide, by decide, by decide⟩ 0).mp (by decide)
  rw [Date.anniversary_le_iff] at hreached
  revert hreached
  decide

end Birthright.Calendar
