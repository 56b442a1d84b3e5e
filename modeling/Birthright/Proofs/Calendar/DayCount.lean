import Mathlib.Order.Monotone.Basic
import Birthright.Proofs.Calendar.AgeGap

/-!
# Days one after the other

Days are counted through all months and years, each of which begins on the day after the one before
it has ended. So the numbers of days tell which date comes first, and how many days later another
one comes: to count from one date to the next so many times leads there.

* `Date.daysInMonth_eq` — the day before the next month is the last day of a month
* `Date.dayNumber_lt_iff` — the dates are in the order of their numbers
* `Date.addDays?_eq_some_iff` — the date that comes some days later
-/

namespace Birthright.Calendar

/-! ## Months and years -/

/-- A year begins on the day after the year before has ended. -/
theorem daysBeforeYear_succ (y : Int) :
    daysBeforeYear (y + 1) = daysBeforeYear y + yearLength y := by
  unfold daysBeforeYear yearLength isLeap
  split
  · next h =>
    simp only [Bool.and_eq_true, Bool.or_eq_true, decide_eq_true_eq] at h
    omega
  · next h =>
    simp only [Bool.and_eq_true, Bool.or_eq_true, decide_eq_true_eq] at h
    omega

theorem daysBeforeMonth_succ {m : Nat} (hm : 1 ≤ m) (y : Int) :
    daysBeforeMonth y (m + 1) = daysBeforeMonth y m + monthLength y m := by
  obtain ⟨n, rfl⟩ : ∃ n, m = n + 1 := ⟨m - 1, by omega⟩
  rfl

/-- Twelve months are a year. -/
theorem daysBeforeMonth_thirteen (y : Int) : daysBeforeMonth y 13 = yearLength y := by
  cases h : isLeap y <;> simp [daysBeforeMonth, monthLength, yearLength, h]

theorem monthLength_mem (y : Int) (m : Nat) : 28 ≤ monthLength y m ∧ monthLength y m ≤ 31 := by
  unfold monthLength
  split
  · split <;> omega
  · split <;> omega

/-- How many days a month has when all months are counted. -/
def lengthOfMonth (k : Int) : Nat := monthLength (k / 12) ((k % 12).toNat + 1)

/-- The number of the last day before a month when all months are counted. -/
def daysBefore (k : Int) : Int :=
  daysBeforeYear (k / 12) + daysBeforeMonth (k / 12) ((k % 12).toNat + 1)

/-- **A month begins** on the day after the month before has ended, also in a new year. -/
theorem daysBefore_succ (k : Int) : daysBefore (k + 1) = daysBefore k + lengthOfMonth k := by
  unfold daysBefore lengthOfMonth
  by_cases hlast : k % 12 = 11
  · have hyear : (k + 1) / 12 = k / 12 + 1 := by omega
    have hmonth : ((k + 1) % 12).toNat = 0 := by omega
    have hdecember : (k % 12).toNat = 11 := by omega
    have htwelve : daysBeforeMonth (k / 12) (11 + 1) + monthLength (k / 12) (11 + 1)
        = yearLength (k / 12) := daysBeforeMonth_thirteen (k / 12)
    have hnone : daysBeforeMonth (k / 12 + 1) (0 + 1) = 0 := rfl
    rw [hyear, hmonth, hdecember, daysBeforeYear_succ, hnone]
    omega
  · have hyear : (k + 1) / 12 = k / 12 := by omega
    have hmonth : ((k + 1) % 12).toNat = (k % 12).toNat + 1 := by omega
    rw [hyear, hmonth, daysBeforeMonth_succ (by omega)]
    omega

/-- Later months begin later. -/
theorem daysBefore_le_daysBefore {k l : Int} (h : k ≤ l) : daysBefore k ≤ daysBefore l := by
  have hmonotone : Monotone daysBefore := monotone_int_of_le_succ fun k => by
    rw [daysBefore_succ]
    omega
  exact hmonotone h

namespace Date

variable {d e : Date}

/-! ## The order of dates -/

theorem monthIndex_ediv (d : Date) : d.monthIndex / 12 = d.year := by
  have hmonth := d.month_mem
  unfold monthIndex
  omega

theorem monthIndex_emod (d : Date) : (d.monthIndex % 12).toNat + 1 = d.month := by
  have hmonth := d.month_mem
  unfold monthIndex
  omega

theorem lengthOfMonth_monthIndex (d : Date) :
    lengthOfMonth d.monthIndex = monthLength d.year d.month := by
  rw [lengthOfMonth, monthIndex_ediv, monthIndex_emod]

theorem day_le_lengthOfMonth (d : Date) : d.day ≤ lengthOfMonth d.monthIndex := by
  rw [lengthOfMonth_monthIndex]
  exact d.day_mem.2

/-- A date is known by its month and its day. -/
theorem eq_iff : d = e ↔ d.monthIndex = e.monthIndex ∧ d.day = e.day := by
  constructor
  · rintro rfl
    exact ⟨rfl, rfl⟩
  · rintro ⟨hindex, hday⟩
    have hyear : d.year = e.year := by rw [← monthIndex_ediv, hindex, monthIndex_ediv]
    have hmonth : d.month = e.month := by rw [← monthIndex_emod, hindex, monthIndex_emod]
    obtain ⟨y, m, n, _, _, _⟩ := d
    obtain ⟨y', m', n', _, _, _⟩ := e
    obtain ⟨rfl, rfl, rfl⟩ : y = y' ∧ m = m' ∧ n = n' := ⟨hyear, hmonth, hday⟩
    rfl

/-- Dates are ordered by year, month and day. -/
instance : LE Date where
  le d e := d.year < e.year ∨ d.year = e.year ∧
    (d.month < e.month ∨ d.month = e.month ∧ d.day ≤ e.day)

/-- The strict order of dates. -/
instance : LT Date where
  lt d e := d.year < e.year ∨ d.year = e.year ∧
    (d.month < e.month ∨ d.month = e.month ∧ d.day < e.day)

theorem le_iff : d ≤ e ↔
    d.monthIndex < e.monthIndex ∨ d.monthIndex = e.monthIndex ∧ d.day ≤ e.day := by
  have h : d ≤ e ↔ d.year < e.year ∨ d.year = e.year ∧
    (d.month < e.month ∨ d.month = e.month ∧ d.day ≤ e.day) := Iff.rfl
  have hd := d.month_mem
  have he := e.month_mem
  rw [h, monthIndex, monthIndex]
  omega

theorem lt_iff : d < e ↔
    d.monthIndex < e.monthIndex ∨ d.monthIndex = e.monthIndex ∧ d.day < e.day := by
  have h : d < e ↔ d.year < e.year ∨ d.year = e.year ∧
    (d.month < e.month ∨ d.month = e.month ∧ d.day < e.day) := Iff.rfl
  have hd := d.month_mem
  have he := e.month_mem
  rw [h, monthIndex, monthIndex]
  omega

theorem le_self (d : Date) : d ≤ d := le_iff.mpr (.inr ⟨rfl, Nat.le_refl d.day⟩)

theorem le_of_le_of_le (d e f : Date) (hde : d ≤ e) (hef : e ≤ f) : d ≤ f := by
  rw [le_iff] at *
  omega

theorem lt_iff_le_and_not_le (d e : Date) : d < e ↔ d ≤ e ∧ ¬e ≤ d := by
  rw [lt_iff, le_iff, le_iff]
  omega

theorem eq_of_le_of_le (d e : Date) (hde : d ≤ e) (hed : e ≤ d) : d = e := by
  rw [le_iff] at hde hed
  rw [eq_iff]
  omega

instance : PartialOrder Date where
  le_refl := le_self
  le_trans := le_of_le_of_le
  lt_iff_le_not_ge := lt_iff_le_and_not_le
  le_antisymm := eq_of_le_of_le

theorem dayNumber_eq (d : Date) : d.dayNumber = daysBefore d.monthIndex + d.day := by
  rw [dayNumber, ordinal, daysBefore, monthIndex_ediv, monthIndex_emod]
  omega

theorem dayNumber_lt_of_lt (h : d < e) : d.dayNumber < e.dayNumber := by
  rw [dayNumber_eq, dayNumber_eq]
  rcases lt_iff.mp h with hmonth | ⟨hmonth, hday⟩
  · -- The first date comes before the end of its month, and the second after that.
    have hnext := daysBefore_le_daysBefore (show d.monthIndex + 1 ≤ e.monthIndex from hmonth)
    rw [daysBefore_succ] at hnext
    have hday := d.day_le_lengthOfMonth
    have hfirst := e.day_mem.1
    omega
  · rw [hmonth]
    omega

theorem le_or_lt (d e : Date) : d ≤ e ∨ e < d := by
  rw [le_iff, lt_iff]
  omega

/-- **Which date comes first** is told by the numbers of the days. -/
theorem dayNumber_lt_iff : d.dayNumber < e.dayNumber ↔ d < e := by
  refine ⟨fun h => ?_, dayNumber_lt_of_lt⟩
  rcases le_or_lt e d with hle | hlt
  · rcases hle.lt_or_eq with hback | rfl
    · exact absurd (dayNumber_lt_of_lt hback) (by omega)
    · exact absurd h (by omega)
  · exact hlt

theorem dayNumber_injective : Function.Injective dayNumber := by
  intro d e h
  rcases le_or_lt d e with hle | hlt
  · rcases hle.lt_or_eq with hlt | rfl
    · exact absurd (dayNumber_lt_iff.mpr hlt) (by omega)
    · rfl
  · exact absurd (dayNumber_lt_iff.mpr hlt) (by omega)

/-! ## The next day -/

theorem of?_eq_some_iff {y : Int} {m n : Nat} :
    of? y m n = some d ↔ d.year = y ∧ d.month = m ∧ d.day = n := by
  unfold of?
  constructor
  · intro h
    split at h
    · cases h
      exact ⟨rfl, rfl, rfl⟩
    · cases h
  · rintro ⟨rfl, rfl, rfl⟩
    rw [dif_pos ⟨d.year_mem, d.month_mem, d.day_mem⟩]

theorem of?_eq_none_iff {y : Int} {m n : Nat} : of? y m n = none ↔
    ¬((firstYear ≤ y ∧ y ≤ lastYear) ∧ (1 ≤ m ∧ m ≤ 12) ∧ 1 ≤ n ∧ n ≤ monthLength y m) := by
  unfold of?
  split <;> simp_all

/-- The day after is in the same month, or it is the first of the next one. -/
theorem succ?_eq_some (h : d.succ? = some e) :
    e.monthIndex = d.monthIndex ∧ e.day = d.day + 1 ∨
      e.monthIndex = d.monthIndex + 1 ∧ e.day = 1 ∧ d.day = lengthOfMonth d.monthIndex := by
  have hmonth := d.month_mem
  have hday := d.day_mem
  simp only [succ?, Option.orElse_eq_orElse, Option.orElse_eq_or, Option.or_eq_some_iff,
    of?_eq_some_iff, of?_eq_none_iff] at h
  rw [lengthOfMonth_monthIndex]
  unfold monthIndex
  rcases h with ⟨hyear, hm, hd⟩ | ⟨hlast, ⟨hyear, hm, hd⟩ | ⟨hdecember, hyear, hm, hd⟩⟩
  · exact .inl (by omega)
  · have hyears := d.year_mem
    exact .inr (by omega)
  · have hyears := d.year_mem
    have hpos := monthLength_mem d.year (d.month + 1)
    exact .inr (by omega)

/-- Only the last date has none after it. -/
theorem exists_succ? (h : d < e) : ∃ next, d.succ? = some next := by
  rw [← Option.ne_none_iff_exists']
  intro hnone
  simp only [succ?, Option.orElse_eq_orElse, Option.orElse_eq_or, Option.or_eq_none_iff,
    of?_eq_none_iff] at hnone
  have hmonth := d.month_mem
  have hday := d.day_mem
  have hnext := monthLength_mem d.year (d.month + 1)
  have hjanuary := monthLength_mem (d.year + 1) 1
  have hyear := d.year_mem
  -- Where neither the month nor the year goes on, this is the end of the last year.
  obtain ⟨hlast, hdecember, hyears⟩ :
      d.day = monthLength d.year d.month ∧ d.month = 12 ∧ d.year = lastYear := by omega
  have hyear' := e.year_mem
  have hmonth' := e.month_mem
  have hday' := e.day_le_lengthOfMonth
  have hindex : e.monthIndex ≤ d.monthIndex := by
    unfold monthIndex
    omega
  rcases lt_iff.mp h with hlt | ⟨heq, hlt⟩
  · omega
  · rw [← heq, lengthOfMonth_monthIndex] at hday'
    omega

theorem dayNumber_succ? (h : d.succ? = some e) : e.dayNumber = d.dayNumber + 1 := by
  rw [dayNumber_eq, dayNumber_eq]
  rcases succ?_eq_some h with ⟨hmonth, hday⟩ | ⟨hmonth, hday, hlast⟩
  · rw [hmonth]
    omega
  · rw [hmonth, daysBefore_succ]
    omega

/-- The date some days later, counted one by one. -/
def addDays? (d : Date) : Nat → Option Date
  | 0 => some d
  | n + 1 => d.succ?.bind (addDays? · n)

/-- **The date some days later** is the one whose number is greater by so many. -/
theorem addDays?_eq_some_iff {n : Nat} :
    d.addDays? n = some e ↔ e.dayNumber = d.dayNumber + n := by
  induction n generalizing d with
  | zero =>
    rw [addDays?, Option.some.injEq]
    constructor
    · rintro rfl
      simp
    · intro h
      exact dayNumber_injective (by simpa using h.symm)
  | succ n ih =>
    rw [addDays?, Option.bind_eq_some_iff]
    constructor
    · rintro ⟨next, hnext, hrest⟩
      have hone := dayNumber_succ? hnext
      have hmore := ih.mp hrest
      omega
    · intro h
      have hlt : d < e := dayNumber_lt_iff.mp (by omega)
      obtain ⟨next, hnext⟩ := exists_succ? hlt
      have hone := dayNumber_succ? hnext
      exact ⟨next, hnext, ih.mpr (by omega)⟩

/-! ## The length of a month -/

/-- The last day of the month of a date. -/
def endOfMonth (d : Date) : Date where
  year := d.year
  month := d.month
  day := monthLength d.year d.month
  year_mem := d.year_mem
  month_mem := d.month_mem
  day_mem := ⟨by have h := monthLength_mem d.year d.month; omega, Nat.le_refl _⟩

/-- The day before the first of a month is the last one of the month before. -/
theorem pred?_eq_endOfMonth (hfirst : e.day = 1) (hnext : e.monthIndex = d.monthIndex + 1) :
    e.pred? = some d.endOfMonth := by
  have hmonth := d.month_mem
  have hmonth' := e.month_mem
  have hdecember (y : Int) : monthLength y 12 = 31 := rfl
  unfold monthIndex at hnext
  simp only [pred?, Option.orElse_eq_orElse, Option.orElse_eq_or, Option.or_eq_some_iff,
    of?_eq_some_iff, of?_eq_none_iff, endOfMonth]
  refine .inr ⟨by omega, ?_⟩
  by_cases hjanuary : e.month = 1
  · obtain ⟨hyear, hlast⟩ : d.year = e.year - 1 ∧ d.month = 12 := by omega
    refine .inr ⟨by omega, hyear, hlast, ?_⟩
    rw [hlast, hdecember]
  · obtain ⟨hyear, hbefore⟩ : d.year = e.year ∧ d.month = e.month - 1 := by omega
    exact .inl ⟨hyear, hbefore, by rw [hyear, hbefore]⟩

/-- The next month begins with its first day. -/
theorem nextMonth?_eq_some (h : d.nextMonth? = some e) :
    e.monthIndex = d.monthIndex + 1 ∧ e.day = 1 := by
  unfold nextMonth? at h
  unfold monthIndex
  split at h <;> rw [of?_eq_some_iff] at h <;> omega

/-- No month follows the last one of all. -/
theorem nextMonth?_eq_none_iff : d.nextMonth? = none ↔ d.year = lastYear ∧ d.month = 12 := by
  have hmonth := d.month_mem
  have hyear := d.year_mem
  have hlength := monthLength_mem d.year (d.month + 1)
  have hjanuary := monthLength_mem (d.year + 1) 1
  unfold nextMonth?
  split <;> rw [of?_eq_none_iff] <;> omega

/-- Every other month ends on the day before the next one. -/
theorem nextMonth?_bind_pred? (h : ¬(d.year = lastYear ∧ d.month = 12)) :
    d.nextMonth?.bind pred? = some d.endOfMonth := by
  obtain ⟨next, hnext⟩ := Option.ne_none_iff_exists'.mp (mt nextMonth?_eq_none_iff.mp h)
  obtain ⟨hindex, hfirst⟩ := nextMonth?_eq_some hnext
  rw [hnext, Option.bind_some, pred?_eq_endOfMonth hfirst hindex]

/-- **The day before the next month** is the last one of a month; no month follows the last one. -/
theorem daysInMonth_eq (d : Date) : d.daysInMonth = monthLength d.year d.month := by
  unfold daysInMonth
  by_cases hlast : d.year = lastYear ∧ d.month = 12
  · rw [nextMonth?_eq_none_iff.mpr hlast, hlast.2]
    rfl
  · rw [nextMonth?_bind_pred? hlast]
    rfl

end Date

end Birthright.Calendar
