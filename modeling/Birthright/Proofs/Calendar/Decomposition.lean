import Mathlib.Order.Bounds.Basic
import Birthright.Proofs.Calendar.DayCount

/-!
# Years, months and days

An age gap takes the time between two dates apart. From the earlier date its years and months lead
to a day in the month of the later date or in the one before, and its days lead from there to the
later date, so that no day is lost and no month could be added. If the dates are given in the wrong
order no part is positive.

* `exists_anchor` — the day to which the months lead, and the days that are left
* `isGreatest_wholeMonths` — no greater number of months would do
* `between_decomposes` — what the parts of a gap say about its two dates
-/

namespace Birthright.Calendar

variable {earlier later : Date}

/-! ## Some months later -/

namespace Date

variable {d e : Date} {n : Nat}

/-- Some months later the day is the same, or the last one of a shorter month. -/
theorem addMonths?_eq_some_iff : d.addMonths? n = some e ↔
    e.monthIndex = d.monthIndex + n ∧ e.day = min d.day (lengthOfMonth e.monthIndex) := by
  have hmonth := e.month_mem
  simp only [addMonths?, of?_eq_some_iff]
  constructor
  · rintro ⟨hyear, hmonth', hday⟩
    have hindex : e.monthIndex = d.monthIndex + n := by
      unfold monthIndex at hyear hmonth' ⊢
      omega
    rw [hday, hindex, lengthOfMonth]
    exact ⟨rfl, rfl⟩
  · rintro ⟨hindex, hday⟩
    rw [← hindex, monthIndex_ediv, monthIndex_emod, ← lengthOfMonth_monthIndex]
    exact ⟨rfl, rfl, hday⟩

/-- There is such a day if the calendar goes on so long. -/
theorem exists_addMonths? (h : d.monthIndex + n ≤ e.monthIndex) :
    ∃ anchor, d.addMonths? n = some anchor := by
  rw [← Option.ne_none_iff_exists']
  intro hnone
  have hday := d.day_mem
  have hlength := monthLength_mem ((d.monthIndex + n) / 12) (((d.monthIndex + n) % 12).toNat + 1)
  have hyear := d.year_mem
  have hyear' := e.year_mem
  have hfrom := d.monthIndex_ediv
  have hto := e.monthIndex_ediv
  simp only [addMonths?, of?_eq_none_iff] at hnone
  omega

end Date

/-! ## Months -/

/-- Years and months are made of the whole months between the dates. -/
theorem between_eq_ofMonths (earlier later : Date) : AgeGap.between earlier later
    = .ofMonths (wholeMonths earlier later) (AgeGap.between earlier later).days := by
  have hless : (later.day : Int) - earlier.day < 0 ↔ later.day < earlier.day := by omega
  have hmore : 0 < (later.day : Int) - earlier.day ↔ earlier.day < later.day := by omega
  simp only [AgeGap.between, wholeMonths, hless, hmore]
  split
  · rfl
  · split <;> rfl

/-- Where a month is borrowed, one month less is complete. -/
theorem wholeMonths_of_borrowed (hmonths : earlier.monthIndex < later.monthIndex)
    (hday : later.day < earlier.day) :
    wholeMonths earlier later = later.monthIndex - earlier.monthIndex - 1 := by
  unfold wholeMonths
  rw [if_pos (by omega)]

/-- In the wrong order, a month is borrowed where the later date comes last in its month. -/
theorem wholeMonths_of_borrowedBack (hmonths : later.monthIndex < earlier.monthIndex)
    (hday : earlier.day < later.day) :
    wholeMonths earlier later = later.monthIndex - earlier.monthIndex + 1 := by
  unfold wholeMonths
  rw [if_neg (by omega), if_pos (by omega)]

/-- Where all months are complete, they are counted as they are. -/
theorem wholeMonths_of_complete
    (hborrow : ¬(earlier.monthIndex < later.monthIndex ∧ later.day < earlier.day))
    (hback : ¬(later.monthIndex < earlier.monthIndex ∧ earlier.day < later.day)) :
    wholeMonths earlier later = later.monthIndex - earlier.monthIndex := by
  unfold wholeMonths
  rw [if_neg (by omega), if_neg (by omega)]

/-- **Years and months together** are the whole months between the dates. -/
theorem months_between (earlier later : Date) :
    12 * (AgeGap.between earlier later).years + (AgeGap.between earlier later).months
      = wholeMonths earlier later := by
  rw [between_eq_ofMonths]
  exact Int.mul_tdiv_add_tmod (wholeMonths earlier later) 12

/-- No greater number of months would do. -/
theorem isGreatest_wholeMonths (h : earlier ≤ later) :
    IsGreatest {k : Int | toLex (earlier.monthIndex + k, earlier.day)
      ≤ toLex (later.monthIndex, later.day)} (wholeMonths earlier later) := by
  rw [Date.le_iff] at h
  simp only [Prod.Lex.toLex_le_toLex]
  unfold wholeMonths
  dsimp only
  constructor
  · rw [Set.mem_ofPred_eq]
    split
    · omega
    · split <;> omega
  · intro k hk
    rw [Set.mem_ofPred_eq] at hk
    split
    · omega
    · split <;> omega

theorem wholeMonths_nonneg (h : earlier ≤ later) : 0 ≤ wholeMonths earlier later := by
  rw [Date.le_iff] at h
  unfold wholeMonths
  dsimp only
  split
  · omega
  · split <;> omega

theorem wholeMonths_nonpos (h : later < earlier) : wholeMonths earlier later ≤ 0 := by
  rw [Date.lt_iff] at h
  unfold wholeMonths
  dsimp only
  split
  · omega
  · split <;> omega

/-! ## Days -/

/-- Where a month is borrowed, the days count from the day to which the other months lead. -/
theorem days_between_of_borrowed {anchor : Date} (hmonths : earlier.monthIndex < later.monthIndex)
    (hday : later.day < earlier.day)
    (hanchor : earlier.addMonths? (wholeMonths earlier later).toNat = some anchor) :
    (AgeGap.between earlier later).days = later.dayNumber - anchor.dayNumber := by
  unfold AgeGap.between
  dsimp only
  rw [if_pos (by omega), AgeGap.daysAfterMonths?, ← wholeMonths_of_borrowed hmonths hday, hanchor]
  rfl

/-- In the wrong order, the month that is not complete is as long as that of the later date. -/
theorem days_between_of_borrowedBack (hmonths : later.monthIndex < earlier.monthIndex)
    (hday : earlier.day < later.day) :
    (AgeGap.between earlier later).days = later.day - earlier.day - later.daysInMonth := by
  unfold AgeGap.between
  dsimp only
  rw [if_neg (by omega), if_pos (by omega)]
  rfl

/-- Where all months are complete, the days of the month are compared. -/
theorem days_between_of_complete
    (hborrow : ¬(earlier.monthIndex < later.monthIndex ∧ later.day < earlier.day))
    (hback : ¬(later.monthIndex < earlier.monthIndex ∧ earlier.day < later.day)) :
    (AgeGap.between earlier later).days = later.day - earlier.day := by
  unfold AgeGap.between
  dsimp only
  rw [if_neg (by omega), if_neg (by omega)]
  rfl

/--
**The day to which the months lead**, and the days that are left from there: it lies in the month of
the later date, or in the month before if it would come after the later date.
-/
theorem exists_anchor (h : earlier ≤ later) :
    ∃ anchor, earlier.addMonths? (wholeMonths earlier later).toNat = some anchor ∧
      (AgeGap.between earlier later).days = later.dayNumber - anchor.dayNumber ∧
      0 ≤ (AgeGap.between earlier later).days ∧ (AgeGap.between earlier later).days ≤ 30 := by
  have hday := earlier.day_mem
  have hlongest : earlier.day ≤ 31 := hday.2.trans (monthLength_mem _ _).2
  have hlongest' : later.day ≤ 31 := later.day_mem.2.trans (monthLength_mem _ _).2
  have hlast := later.day_le_lengthOfMonth
  rw [Date.le_iff] at h
  by_cases hborrow : later.day < earlier.day
  · have hmonths : earlier.monthIndex < later.monthIndex := by omega
    have hwhole := wholeMonths_of_borrowed hmonths hborrow
    obtain ⟨anchor, hanchor⟩ := Date.exists_addMonths? (d := earlier) (e := later)
      (n := (wholeMonths earlier later).toNat) (by omega)
    have hdays := days_between_of_borrowed hmonths hborrow hanchor
    obtain ⟨hindex, hclamped⟩ := Date.addMonths?_eq_some_iff.mp hanchor
    -- The month of the later date follows that of the anchor.
    have hnext : later.monthIndex = anchor.monthIndex + 1 := by omega
    have hlength := monthLength_mem anchor.year anchor.month
    rw [← Date.lengthOfMonth_monthIndex] at hlength
    have hfirst := later.day_mem.1
    refine ⟨anchor, hanchor, hdays, ?_⟩
    rw [hdays, Date.dayNumber_eq, Date.dayNumber_eq, hnext, daysBefore_succ]
    omega
  · have hwhole : wholeMonths earlier later = later.monthIndex - earlier.monthIndex :=
      wholeMonths_of_complete (by omega) (by omega)
    obtain ⟨anchor, hanchor⟩ := Date.exists_addMonths? (d := earlier) (e := later)
      (n := (wholeMonths earlier later).toNat) (by omega)
    have hdays : (AgeGap.between earlier later).days = later.day - earlier.day :=
      days_between_of_complete (by omega) (by omega)
    obtain ⟨hindex, hclamped⟩ := Date.addMonths?_eq_some_iff.mp hanchor
    have hsame : anchor.monthIndex = later.monthIndex := by omega
    rw [hsame] at hclamped
    refine ⟨anchor, hanchor, ?_⟩
    rw [hdays, Date.dayNumber_eq, Date.dayNumber_eq, hsame]
    omega

/-- In the wrong order no day is left over, and without a month there are days back. -/
theorem days_between_nonpos (h : later < earlier) : (AgeGap.between earlier later).days ≤ 0 ∧
    (wholeMonths earlier later = 0 → (AgeGap.between earlier later).days < 0) := by
  have hfirst := earlier.day_mem.1
  have hlast := later.day_mem.2
  rw [← Date.daysInMonth_eq] at hlast
  rw [Date.lt_iff] at h
  by_cases hback : later.monthIndex < earlier.monthIndex ∧ earlier.day < later.day
  · have hdays := days_between_of_borrowedBack hback.1 hback.2
    omega
  · have hdays : (AgeGap.between earlier later).days = later.day - earlier.day :=
      days_between_of_complete (by omega) hback
    have hwhole : wholeMonths earlier later = later.monthIndex - earlier.monthIndex :=
      wholeMonths_of_complete (by omega) (by omega)
    omega

/-! ## All parts -/

/-- The parts lead from a date to one that is not before it, by as many months as can be. -/
structure AgeGap.LeadsTo (g : AgeGap) (earlier later : Date) : Prop where
  years_nonneg : 0 ≤ g.years
  months_mem : 0 ≤ g.months ∧ g.months ≤ 11
  days_mem : 0 ≤ g.days ∧ g.days ≤ 30
  /-- The months are added first, and then the days one by one. -/
  reached : ∃ anchor, earlier.addMonths? (12 * g.years + g.months).toNat = some anchor ∧
    anchor.addDays? g.days.toNat = some later
  greatest : IsGreatest {k : Int | toLex (earlier.monthIndex + k, earlier.day)
    ≤ toLex (later.monthIndex, later.day)} (12 * g.years + g.months)

/-- The parts of a gap do not mix signs: none is positive, and one is negative. -/
structure AgeGap.LeadsBack (g : AgeGap) : Prop where
  years_nonpos : g.years ≤ 0
  months_nonpos : g.months ≤ 0
  days_nonpos : g.days ≤ 0
  negative : g.years < 0 ∨ g.months < 0 ∨ g.days < 0

theorem AgeGap.leadsTo_between (h : earlier ≤ later) :
    (AgeGap.between earlier later).LeadsTo earlier later := by
  have hmonths := months_between earlier later
  have hgreatest := isGreatest_wholeMonths h
  have hnonneg := wholeMonths_nonneg h
  obtain ⟨anchor, hanchor, hdays, hnone, hmost⟩ := exists_anchor h
  rw [← hmonths] at hgreatest hanchor
  refine ⟨?_, ⟨?_, ?_⟩, ⟨hnone, hmost⟩, ⟨anchor, hanchor, ?_⟩, hgreatest⟩
  · rw [between_eq_ofMonths]
    exact Int.tdiv_nonneg hnonneg (by decide)
  · rw [between_eq_ofMonths]
    exact Int.tmod_nonneg 12 hnonneg
  · rw [between_eq_ofMonths]
    exact Int.le_of_lt_add_one (Int.tmod_lt_of_pos _ (by decide))
  · rw [Date.addDays?_eq_some_iff]
    omega

theorem AgeGap.leadsBack_between (h : later < earlier) :
    (AgeGap.between earlier later).LeadsBack := by
  have hmonths := months_between earlier later
  have hnonpos := wholeMonths_nonpos h
  obtain ⟨hdays, hnegative⟩ := days_between_nonpos h
  -- Division towards zero is the same in both directions.
  have hyears : 0 ≤ (-wholeMonths earlier later).tdiv 12 := Int.tdiv_nonneg (by omega) (by decide)
  have hrest : 0 ≤ (-wholeMonths earlier later).tmod 12 := Int.tmod_nonneg 12 (by omega)
  rw [Int.neg_tdiv] at hyears
  rw [Int.neg_tmod] at hrest
  refine ⟨?_, ?_, hdays, ?_⟩
  · rw [between_eq_ofMonths]
    exact Int.neg_nonneg.mp hyears
  · rw [between_eq_ofMonths]
    exact Int.neg_nonneg.mp hrest
  · by_cases hnone : wholeMonths earlier later = 0
    · exact .inr (.inr (hnegative hnone))
    · omega

/--
**An age gap takes the time between two dates apart**: it leads from the one to the other if they
are given in their order, and else no part is positive; all parts are zero only for equal dates.
-/
theorem between_decomposes (earlier later : Date) :
    (earlier ≤ later → (AgeGap.between earlier later).LeadsTo earlier later) ∧
      (later < earlier → (AgeGap.between earlier later).LeadsBack) ∧
      (AgeGap.between earlier later = ⟨0, 0, 0⟩ → earlier = later) := by
  refine ⟨AgeGap.leadsTo_between, AgeGap.leadsBack_between, fun hzero => ?_⟩
  rcases Date.le_or_lt earlier later with hle | hlt
  · obtain ⟨anchor, hanchor, hreached⟩ := (AgeGap.leadsTo_between hle).reached
    rw [hzero] at hanchor hreached
    -- No months lead to the anchor, and no days from there to the later date.
    obtain ⟨hindex, hday⟩ := Date.addMonths?_eq_some_iff.mp hanchor
    have hsame : anchor.monthIndex = earlier.monthIndex := by simpa using hindex
    have hlength := earlier.day_le_lengthOfMonth
    rw [hsame] at hday
    have hearlier : earlier = anchor := Date.eq_iff.mpr ⟨hsame.symm, by omega⟩
    have hlater : anchor = later := Option.some.inj hreached
    exact hearlier.trans hlater
  · have hnegative := (AgeGap.leadsBack_between hlt).negative
    rw [hzero] at hnegative
    simp at hnegative

/-- From the last of January 2000 one month leads to the last of February, and a day to March. -/
theorem between_decomposes_of_january :
    AgeGap.between ⟨2000, 1, 31, by decide, by decide, by decide⟩
        ⟨2000, 3, 1, by decide, by decide, by decide⟩ = ⟨0, 1, 1⟩ ∧
      AgeGap.LeadsTo ⟨0, 1, 1⟩ ⟨2000, 1, 31, by decide, by decide, by decide⟩
        ⟨2000, 3, 1, by decide, by decide, by decide⟩ := by
  have hgap : AgeGap.between ⟨2000, 1, 31, by decide, by decide, by decide⟩
      ⟨2000, 3, 1, by decide, by decide, by decide⟩ = ⟨0, 1, 1⟩ := by decide
  refine ⟨hgap, ?_⟩
  rw [← hgap]
  exact (between_decomposes _ _).1 (Date.le_iff.mpr (by decide))

end Birthright.Calendar
