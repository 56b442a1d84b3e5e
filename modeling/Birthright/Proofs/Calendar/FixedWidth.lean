import Mathlib.Data.Set.Card
import Mathlib.Order.Interval.Finset.Nat
import Birthright.Proofs.Calendar.Decomposition

/-!
# Age gaps in numbers of fixed width

An age gap can be worked out in numbers of fixed width: its months are counted in 64 bits, they are
added to a date in 32 bits without a sign, and its parts are kept in 32 bits with a sign. A number
that did not fit its width would become another one, and where no date is found another number of
days is put in its place. Neither happens for any two dates of the calendar, so the parts are those
of the gap in numbers without bounds.

* `Date.numbersFit` — the numbers of one date, and the length of its month
* `gapFits` — the numbers of a gap between two dates
* `gaps_fit_their_widths` — both for all dates
-/

namespace Birthright.Calendar

/-! ## One date -/

namespace Date

variable (d : Date)

/-- The year in 32 bits. -/
def year32 : Int32 := .ofInt d.year

/-- The day of the month in 32 bits, which are given a sign. -/
def day32 : Int32 := (UInt32.ofNat d.day).toInt32

/-- Which month a date lies in when all months are counted, in 64 bits. -/
def monthIndex64 : Int64 := d.year32.toInt64 * 12 + (UInt32.ofNat (d.month - 1)).toUInt64.toInt64

/-- The first day of the month after that of the date, from its year and month in 32 bits. -/
def nextMonth32? : Option Date :=
  if d.month = 12 then of? (d.year32 + 1).toInt 1 1
  else of? d.year32.toInt (UInt32.ofNat d.month + 1).toNat 1

/-- How many days the month of the date has, in 32 bits. -/
def daysInMonth32 : Int32 :=
  match d.nextMonth32?.bind pred? with
  | some last => last.day32
  | none => 31

theorem toInt_year32 : d.year32.toInt = d.year := by
  have hyear := d.year_mem
  simp only [firstYear, lastYear] at hyear
  exact Int32.toInt_ofInt_of_le (by omega) (by omega)

theorem day_le : d.day ≤ 31 := d.day_mem.2.trans (monthLength_mem d.year d.month).2

theorem day32_eq : d.day32 = .ofInt d.day := by
  rw [day32, UInt32.toInt32_ofNat', Int32.ofInt_eq_ofNat]

theorem toInt_day32 : d.day32.toInt = d.day := by
  have hday := d.day_le
  rw [day32_eq]
  exact Int32.toInt_ofInt_of_le (by omega) (by omega)

/-- All months of the calendar can be counted in 22 bits and a sign. -/
theorem monthIndex_mem : -2 ^ 22 ≤ d.monthIndex ∧ d.monthIndex < 2 ^ 22 := by
  have hyear := d.year_mem
  have hmonth := d.month_mem
  simp only [firstYear, lastYear] at hyear
  unfold monthIndex
  omega

/--
Sums, differences and products agree with those without bounds before any number is known to fit, so
that bounds are needed only where a number is read.
-/
theorem yearMonths64_eq : d.year32.toInt64 * 12 = .ofInt (d.year * 12) := by
  have hyear : d.year32.toInt64 = .ofInt d.year := by rw [← toInt_year32, Int64.ofInt_int32ToInt]
  rw [hyear, Int64.ofInt_mul]
  rfl

theorem monthIndex64_eq : d.monthIndex64 = .ofInt d.monthIndex := by
  have hmonth := d.month_mem
  have hmonths : (UInt32.ofNat (d.month - 1)).toUInt64.toInt64 = .ofInt (d.month - 1 : Nat) := by
    have hsize : d.month - 1 < UInt32.size := by
      unfold UInt32.size
      omega
    rw [UInt32.toUInt64_ofNat' hsize, UInt64.toInt64_ofNat', Int64.ofInt_eq_ofNat]
  have hbefore : ((d.month - 1 : Nat) : Int) = d.month - 1 := by omega
  rw [monthIndex64, yearMonths64_eq, hmonths, hbefore, monthIndex, Int64.ofInt_add]

theorem toInt_nextYear32 : (d.year32 + 1).toInt = d.year + 1 := by
  have hyear := d.year_mem
  simp only [firstYear, lastYear] at hyear
  have hnext : d.year32 + 1 = .ofInt (d.year + 1) := by
    rw [Int32.ofInt_add]
    rfl
  rw [hnext]
  exact Int32.toInt_ofInt_of_le (by omega) (by omega)

theorem nextMonth32?_eq : d.nextMonth32? = d.nextMonth? := by
  have hmonth := d.month_mem
  have hnextMonth : (UInt32.ofNat d.month + 1).toNat = d.month + 1 := by
    have hone : (1 : UInt32).toNat = 1 := rfl
    rw [UInt32.toNat_add, UInt32.toNat_ofNat', hone]
    omega
  rw [nextMonth32?, nextMonth?, toInt_nextYear32, hnextMonth, toInt_year32]

theorem daysInMonth32_eq : d.daysInMonth32 = .ofInt d.daysInMonth := by
  unfold daysInMonth32 daysInMonth
  rw [nextMonth32?_eq]
  cases d.nextMonth?.bind pred? with
  | some last => exact last.day32_eq
  | none => rfl

/-- A month has as many dates as it is long. -/
theorem ncard_month :
    {e : Date | e.year = d.year ∧ e.month = d.month}.ncard = monthLength d.year d.month := by
  have hinjective : Set.InjOn day {e : Date | e.year = d.year ∧ e.month = d.month} := by
    rintro e ⟨hyear, hmonth⟩ e' ⟨hyear', hmonth'⟩ hday
    refine eq_iff.mpr ⟨?_, hday⟩
    rw [monthIndex, monthIndex, hyear, hmonth, hyear', hmonth']
  have hdays : day '' {e : Date | e.year = d.year ∧ e.month = d.month}
      = Set.Icc 1 (monthLength d.year d.month) := by
    ext n
    constructor
    · rintro ⟨e, ⟨hyear, hmonth⟩, rfl⟩
      rw [← hyear, ← hmonth]
      exact e.day_mem
    · intro hn
      exact ⟨⟨d.year, d.month, n, d.year_mem, d.month_mem, hn⟩, ⟨rfl, rfl⟩, rfl⟩
  rw [← hinjective.ncard_image, hdays, Set.ncard_eq_toFinset_card', Set.toFinset_Icc, Nat.card_Icc,
    Nat.add_sub_cancel]

/--
The numbers of a date fit their widths, and the length of its month is told. Only the last month of
all is followed by no other, and is told to be as long as every December.
-/
structure NumbersFit : Prop where
  year_kept : d.year32.toInt = d.year
  day_kept : d.day32.toInt = d.day
  yearMonths_kept : (d.year32.toInt64 * 12).toInt = d.year * 12
  monthIndex_kept : d.monthIndex64.toInt = d.monthIndex
  nextYear_kept : (d.year32 + 1).toInt = d.year + 1
  nextMonth_kept : d.nextMonth32? = d.nextMonth?
  nextMonth_none_iff : d.nextMonth32? = none ↔ d.year = lastYear ∧ d.month = 12
  endOfMonth_found : ¬(d.year = lastYear ∧ d.month = 12) →
    d.nextMonth32?.bind pred? = some d.endOfMonth
  daysInMonth_kept : d.daysInMonth32.toInt = d.daysInMonth
  /-- The length is that of the calendar, also for the last month of all. -/
  daysInMonth_told : d.daysInMonth = monthLength d.year d.month
  /-- The month has as many dates. -/
  daysInMonth_counted : {e : Date | e.year = d.year ∧ e.month = d.month}.ncard = d.daysInMonth

theorem numbersFit : d.NumbersFit where
  year_kept := d.toInt_year32
  day_kept := d.toInt_day32
  yearMonths_kept := by
    have hindex := d.monthIndex_mem
    have hmonth := d.month_mem
    unfold monthIndex at hindex
    rw [yearMonths64_eq]
    exact Int64.toInt_ofInt_of_le (by omega) (by omega)
  monthIndex_kept := by
    have hindex := d.monthIndex_mem
    rw [monthIndex64_eq]
    exact Int64.toInt_ofInt_of_le (by omega) (by omega)
  nextYear_kept := d.toInt_nextYear32
  nextMonth_kept := d.nextMonth32?_eq
  nextMonth_none_iff := by rw [nextMonth32?_eq, nextMonth?_eq_none_iff]
  endOfMonth_found hnext := by rw [nextMonth32?_eq, nextMonth?_bind_pred? hnext]
  daysInMonth_kept := by
    have hlength := (monthLength_mem d.year d.month).2
    rw [daysInMonth32_eq, daysInMonth_eq]
    exact Int32.toInt_ofInt_of_le (by omega) (by omega)
  daysInMonth_told := d.daysInMonth_eq
  daysInMonth_counted := by rw [ncard_month, daysInMonth_eq]

end Date

/-! ## Two dates -/

variable (earlier later : Date)

/-- Months from one date to another, not all of them complete. -/
def monthsApart64 : Int64 := later.monthIndex64 - earlier.monthIndex64

/-- Days from one date to another when only the days of their months are compared. -/
def daysApart32 : Int32 := later.day32 - earlier.day32

/-- A month is borrowed where the later date comes first in its month. -/
def Borrows : Prop := 0 < monthsApart64 earlier later ∧ daysApart32 earlier later < 0

/-- In the wrong order a month is borrowed where the later date comes last in its month. -/
def BorrowsBack : Prop := monthsApart64 earlier later < 0 ∧ 0 < daysApart32 earlier later

instance : Decidable (Borrows earlier later) := inferInstanceAs (Decidable (_ ∧ _))

instance : Decidable (BorrowsBack earlier later) := inferInstanceAs (Decidable (_ ∧ _))

/-- The months that are complete. -/
def wholeMonths64 : Int64 :=
  if Borrows earlier later then monthsApart64 earlier later - 1
  else if BorrowsBack earlier later then monthsApart64 earlier later + 1
  else monthsApart64 earlier later

/-- The months that are added to the earlier date, in 32 bits without a sign. -/
def addedMonths32 : UInt32 := (wholeMonths64 earlier later).toUInt64.toUInt32

/-- The date to which the added months lead. -/
def anchor32? : Option Date := earlier.addMonths? (addedMonths32 earlier later).toNat

/-- How many days later another date comes, in 64 bits. -/
def daysAfter64 (anchor later : Date) : Int64 := .ofInt (later.dayNumber - anchor.dayNumber)

/-- The days that are left. Where no date is found, only the days of the months are compared. -/
def daysLeft32 : Int32 :=
  if Borrows earlier later then
    match anchor32? earlier later with
    | some anchor => (daysAfter64 anchor later).toInt32
    | none => daysApart32 earlier later
  else if BorrowsBack earlier later then daysApart32 earlier later - later.daysInMonth32
  else daysApart32 earlier later

/-- An age gap in numbers of 32 bits. -/
structure AgeGap32 where
  years : Int32
  months : Int32
  days : Int32
  deriving DecidableEq, Repr

/-- The gap in numbers without bounds. -/
def AgeGap32.toAgeGap (g : AgeGap32) : AgeGap := ⟨g.years.toInt, g.months.toInt, g.days.toInt⟩

/-- The gap from one date to another in numbers of fixed width. -/
def between32 : AgeGap32 where
  years := (wholeMonths64 earlier later / 12).toInt32
  months := (wholeMonths64 earlier later % 12).toInt32
  days := daysLeft32 earlier later

/-! ## Months -/

theorem monthsApart64_eq :
    monthsApart64 earlier later = .ofInt (later.monthIndex - earlier.monthIndex) := by
  rw [monthsApart64, Date.monthIndex64_eq, Date.monthIndex64_eq, Int64.ofInt_sub]

theorem toInt_monthsApart64 :
    (monthsApart64 earlier later).toInt = later.monthIndex - earlier.monthIndex := by
  have hearlier := earlier.monthIndex_mem
  have hlater := later.monthIndex_mem
  rw [monthsApart64_eq]
  exact Int64.toInt_ofInt_of_le (by omega) (by omega)

theorem daysApart32_eq : daysApart32 earlier later = .ofInt (later.day - earlier.day) := by
  rw [daysApart32, Date.day32_eq, Date.day32_eq, Int32.ofInt_sub]

theorem toInt_daysApart32 : (daysApart32 earlier later).toInt = later.day - earlier.day := by
  have hearlier := earlier.day_le
  have hlater := later.day_le
  rw [daysApart32_eq]
  exact Int32.toInt_ofInt_of_le (by omega) (by omega)

variable {earlier later}

theorem borrows_iff : Borrows earlier later ↔
    earlier.monthIndex < later.monthIndex ∧ later.day < earlier.day := by
  rw [Borrows, Int64.lt_iff_toInt_lt, Int32.lt_iff_toInt_lt, toInt_monthsApart64,
    toInt_daysApart32, Int64.toInt_zero, Int32.toInt_zero]
  omega

/-- Dates between which a month is borrowed are in their order. -/
theorem Borrows.le (hborrow : Borrows earlier later) : earlier ≤ later :=
  Date.le_iff.mpr (.inl (borrows_iff.mp hborrow).1)

theorem borrowsBack_iff : BorrowsBack earlier later ↔
    later.monthIndex < earlier.monthIndex ∧ earlier.day < later.day := by
  rw [BorrowsBack, Int64.lt_iff_toInt_lt, Int32.lt_iff_toInt_lt, toInt_monthsApart64,
    toInt_daysApart32, Int64.toInt_zero, Int32.toInt_zero]
  omega

theorem wholeMonths64_eq : wholeMonths64 earlier later = .ofInt (wholeMonths earlier later) := by
  unfold wholeMonths64
  by_cases hborrow : Borrows earlier later
  · obtain ⟨hmonths, hday⟩ := borrows_iff.mp hborrow
    rw [if_pos hborrow, wholeMonths_of_borrowed hmonths hday, monthsApart64_eq, Int64.ofInt_sub _ 1]
    rfl
  · by_cases hback : BorrowsBack earlier later
    · obtain ⟨hmonths, hday⟩ := borrowsBack_iff.mp hback
      rw [if_neg hborrow, if_pos hback, wholeMonths_of_borrowedBack hmonths hday, monthsApart64_eq,
        Int64.ofInt_add _ 1]
      rfl
    · rw [if_neg hborrow, if_neg hback, monthsApart64_eq,
        wholeMonths_of_complete (mt borrows_iff.mpr hborrow) (mt borrowsBack_iff.mpr hback)]

/-- The months from one date to another can be counted in one bit more. -/
theorem wholeMonths_mem (earlier later : Date) :
    -2 ^ 23 ≤ wholeMonths earlier later ∧ wholeMonths earlier later < 2 ^ 23 := by
  have hearlier := earlier.monthIndex_mem
  have hlater := later.monthIndex_mem
  unfold wholeMonths
  dsimp only
  split
  · omega
  · split <;> omega

theorem toInt_wholeMonths64 : (wholeMonths64 earlier later).toInt = wholeMonths earlier later := by
  have hmonths := wholeMonths_mem earlier later
  rw [wholeMonths64_eq]
  exact Int64.toInt_ofInt_of_le (by omega) (by omega)

/-! ## Parts -/

/-- A number that fits 32 bits stays what it is. -/
theorem toInt_toInt32_of_mem {x : Int64} (hmin : -2 ^ 31 ≤ x.toInt) (hmax : x.toInt < 2 ^ 31) :
    x.toInt32.toInt = x.toInt := by
  rw [← Int32.ofInt_int64ToInt]
  exact Int32.toInt_ofInt_of_le hmin hmax

theorem toInt_years : (wholeMonths64 earlier later / 12).toInt
    = (wholeMonths earlier later).tdiv 12 := by
  rw [Int64.toInt_div_of_ne_right _ _ (by decide), toInt_wholeMonths64]
  rfl

theorem toInt_months : (wholeMonths64 earlier later % 12).toInt
    = (wholeMonths earlier later).tmod 12 := by
  rw [Int64.toInt_mod, toInt_wholeMonths64]
  rfl

/-- Months without a sign are as many as before. -/
theorem toNat_addedMonths32 (h : 0 ≤ wholeMonths earlier later) :
    (addedMonths32 earlier later).toNat = (wholeMonths earlier later).toNat := by
  have hmonths := wholeMonths_mem earlier later
  have hnonneg : 0 ≤ wholeMonths64 earlier later := by
    rw [Int64.le_iff_toInt_le, toInt_wholeMonths64, Int64.toInt_zero]
    exact h
  rw [addedMonths32, UInt64.toNat_toUInt32, Int64.toNat_toUInt64_of_le hnonneg, wholeMonths64_eq,
    Int64.toNatClampNeg_ofInt_of_le (by omega) (by omega)]
  omega

/--
**The added months lead to a date** that does not come after the later one, and the days from there
are a number of 32 bits.
-/
theorem exists_anchor32 (hborrow : Borrows earlier later) :
    ∃ anchor, anchor32? earlier later = some anchor ∧ anchor ≤ later ∧
      (daysAfter64 anchor later).toInt = later.dayNumber - anchor.dayNumber ∧
      (daysAfter64 anchor later).toInt32.toInt = (daysAfter64 anchor later).toInt ∧
      (AgeGap.between earlier later).days = later.dayNumber - anchor.dayNumber := by
  obtain ⟨anchor, hanchor, hdays, hnonneg, hmost⟩ := exists_anchor hborrow.le
  have hfound : anchor32? earlier later = some anchor := by
    rw [anchor32?, toNat_addedMonths32 (wholeMonths_nonneg hborrow.le), hanchor]
  have hbefore : anchor ≤ later := by
    rcases Date.le_or_lt anchor later with hbefore | hafter
    · exact hbefore
    · exact absurd (Date.dayNumber_lt_iff.mpr hafter) (by omega)
  -- At most thirty days are left, a number for which no width is too small.
  have hnumber : (daysAfter64 anchor later).toInt = later.dayNumber - anchor.dayNumber :=
    Int64.toInt_ofInt_of_le (by omega) (by omega)
  exact ⟨anchor, hfound, hbefore, hnumber, toInt_toInt32_of_mem (by omega) (by omega), hdays⟩

theorem toInt_daysLeft32 :
    (daysLeft32 earlier later).toInt = (AgeGap.between earlier later).days := by
  unfold daysLeft32
  by_cases hborrow : Borrows earlier later
  · obtain ⟨anchor, hanchor, -, hnumber, hkept, hdays⟩ := exists_anchor32 hborrow
    rw [if_pos hborrow, hanchor, hdays, ← hnumber]
    exact hkept
  · by_cases hback : BorrowsBack earlier later
    · obtain ⟨hmonths, hday⟩ := borrowsBack_iff.mp hback
      have hearlier := earlier.day_le
      have hlater := later.day_le
      have hlength := (monthLength_mem later.year later.month).2
      rw [← Date.daysInMonth_eq] at hlength
      rw [if_neg hborrow, if_pos hback, days_between_of_borrowedBack hmonths hday, daysApart32_eq,
        Date.daysInMonth32_eq, ← Int32.ofInt_sub]
      exact Int32.toInt_ofInt_of_le (by omega) (by omega)
    · rw [if_neg hborrow, if_neg hback, toInt_daysApart32,
        days_between_of_complete (mt borrows_iff.mpr hborrow) (mt borrowsBack_iff.mpr hback)]

theorem toInt32_years : (wholeMonths64 earlier later / 12).toInt32.toInt
    = (wholeMonths64 earlier later / 12).toInt := by
  have hmonths := wholeMonths_mem earlier later
  have hfewer := Int.natAbs_tdiv_le_natAbs (wholeMonths earlier later) 12
  refine toInt_toInt32_of_mem ?_ ?_ <;> rw [toInt_years] <;> omega

theorem toInt32_months : (wholeMonths64 earlier later % 12).toInt32.toInt
    = (wholeMonths64 earlier later % 12).toInt := by
  have hrest : ((wholeMonths earlier later).tmod 12).natAbs < 12 := by
    rw [Int.natAbs_tmod]
    exact Nat.mod_lt _ (by decide)
  refine toInt_toInt32_of_mem ?_ ?_ <;> rw [toInt_months] <;> omega

/-- **A gap in numbers of fixed width** is that in numbers without bounds. -/
theorem toAgeGap_between32 (earlier later : Date) :
    (between32 earlier later).toAgeGap = AgeGap.between earlier later := by
  rw [AgeGap32.toAgeGap, between32, toInt32_years, toInt32_months, toInt_years, toInt_months,
    toInt_daysLeft32]
  exact (between_eq_ofMonths earlier later).symm

/-! ## All dates -/

/-- The numbers of a gap between two dates fit their widths, and no date is missing. -/
structure GapFits (earlier later : Date) : Prop where
  monthsApart_kept : (monthsApart64 earlier later).toInt = later.monthIndex - earlier.monthIndex
  daysApart_kept : (daysApart32 earlier later).toInt = later.day - earlier.day
  wholeMonths_kept : (wholeMonths64 earlier later).toInt = wholeMonths earlier later
  /-- Months that lose their sign are not negative. -/
  addedMonths_kept : Borrows earlier later → 0 ≤ (wholeMonths64 earlier later).toInt ∧
    ((addedMonths32 earlier later).toNat : Int) = (wholeMonths64 earlier later).toInt
  /-- The months lead to a date that does not come after the later one. -/
  anchor_found : Borrows earlier later → ∃ anchor, anchor32? earlier later = some anchor ∧
    anchor ≤ later ∧ (daysAfter64 anchor later).toInt = later.dayNumber - anchor.dayNumber ∧
    (daysAfter64 anchor later).toInt32.toInt = (daysAfter64 anchor later).toInt
  /-- The month of the later date, which comes first, is not the last month of all. -/
  length_found : BorrowsBack earlier later →
    later.nextMonth32?.bind Date.pred? = some later.endOfMonth
  years_kept : (wholeMonths64 earlier later / 12).toInt32.toInt
    = (wholeMonths64 earlier later / 12).toInt
  months_kept : (wholeMonths64 earlier later % 12).toInt32.toInt
    = (wholeMonths64 earlier later % 12).toInt
  gap_kept : (between32 earlier later).toAgeGap = AgeGap.between earlier later

theorem gapFits (earlier later : Date) : GapFits earlier later where
  monthsApart_kept := toInt_monthsApart64 earlier later
  daysApart_kept := toInt_daysApart32 earlier later
  wholeMonths_kept := toInt_wholeMonths64
  addedMonths_kept hborrow := by
    have hnonneg := wholeMonths_nonneg hborrow.le
    rw [toInt_wholeMonths64, toNat_addedMonths32 hnonneg]
    exact ⟨hnonneg, Int.toNat_of_nonneg hnonneg⟩
  anchor_found hborrow := by
    obtain ⟨anchor, hanchor, hbefore, hnumber, hkept, -⟩ := exists_anchor32 hborrow
    exact ⟨anchor, hanchor, hbefore, hnumber, hkept⟩
  length_found hback := by
    -- The earlier date comes later, and no month comes after the last one of all.
    have hfirst := (borrowsBack_iff.mp hback).1
    have hyear := earlier.year_mem
    have hmonth := earlier.month_mem
    rw [Date.nextMonth32?_eq]
    refine Date.nextMonth?_bind_pred? fun ⟨hlast, hdecember⟩ => ?_
    unfold Date.monthIndex at hfirst
    omega
  years_kept := toInt32_years
  months_kept := toInt32_months
  gap_kept := toAgeGap_between32 earlier later

/--
**Age gaps lose nothing in numbers of fixed width**: for no two dates of the calendar a number is
changed by its width or a date is missing, and for every date the length of its month is told, also
for the last month of all.
-/
theorem gaps_fit_their_widths :
    (∀ earlier later : Date, GapFits earlier later) ∧ ∀ d : Date, d.NumbersFit :=
  ⟨gapFits, Date.numbersFit⟩

/-- A month is borrowed from the first January to the last December, and also on the way back. -/
theorem gaps_fit_from_end_to_end :
    (Borrows ⟨-262143, 1, 31, by decide, by decide, by decide⟩
        ⟨262142, 12, 1, by decide, by decide, by decide⟩ ∧
      ∃ anchor, anchor32? ⟨-262143, 1, 31, by decide, by decide, by decide⟩
        ⟨262142, 12, 1, by decide, by decide, by decide⟩ = some anchor ∧
          anchor ≤ ⟨262142, 12, 1, by decide, by decide, by decide⟩) ∧
    BorrowsBack ⟨262142, 12, 1, by decide, by decide, by decide⟩
        ⟨-262143, 1, 31, by decide, by decide, by decide⟩ ∧
      (Date.nextMonth32? ⟨-262143, 1, 31, by decide, by decide, by decide⟩).bind Date.pred?
        = some (Date.endOfMonth ⟨-262143, 1, 31, by decide, by decide, by decide⟩) := by
  have hborrow : Borrows ⟨-262143, 1, 31, by decide, by decide, by decide⟩
      ⟨262142, 12, 1, by decide, by decide, by decide⟩ := by decide
  have hback : BorrowsBack ⟨262142, 12, 1, by decide, by decide, by decide⟩
      ⟨-262143, 1, 31, by decide, by decide, by decide⟩ := by decide
  obtain ⟨anchor, hanchor, hbefore, -⟩ := (gaps_fit_their_widths.1 _ _).anchor_found hborrow
  exact ⟨⟨hborrow, anchor, hanchor, hbefore⟩, hback,
    (gaps_fit_their_widths.1 _ _).length_found hback⟩

end Birthright.Calendar
