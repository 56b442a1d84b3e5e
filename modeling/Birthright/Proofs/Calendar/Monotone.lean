import Birthright.Proofs.Calendar.DayCount

/-!
# Dates moved apart

How many whole years lie between two dates is told by anniversaries, also where the dates are given
in the wrong order. Anniversaries come in the order of their dates, so that no year is lost when the
later date is moved on or the earlier one back: who is older than somebody who is old enough is old
enough as well.

* `Date.anniversary_le_anniversary` — anniversaries come in the order of their dates
* `yearsBetween_monotone` — whole years and minimum gaps when dates are moved apart
-/

namespace Birthright.Calendar

variable {earlier earlier' later later' : Date} {n : Int}

/-- Anniversaries come in the order of their dates. -/
theorem Date.anniversary_le_anniversary {d e : Date} (h : d ≤ e) (n : Int) :
    d.anniversary n ≤ e.anniversary n := by
  rw [Date.le_iff] at h
  rw [Date.anniversary_le_iff]
  omega

/-- **No year is lost** when two dates are moved apart. -/
theorem le_yearsBetween_of_apart (hearlier : earlier' ≤ earlier) (hlater : later ≤ later')
    (h : n ≤ yearsBetween earlier later) : n ≤ yearsBetween earlier' later' := by
  have hback (n : Int) : earlier'.anniversary n ≤ earlier.anniversary n :=
    Date.anniversary_le_anniversary hearlier n
  have hon (n : Int) : later.anniversary n ≤ later'.anniversary n :=
    Date.anniversary_le_anniversary hlater n
  rw [le_yearsBetween_iff] at h ⊢
  split at h
  · next hpos =>
    rw [if_pos hpos]
    calc earlier'.anniversary n ≤ earlier.anniversary n := hback n
      _ ≤ later.anniversary 0 := h
      _ ≤ later'.anniversary 0 := hon 0
  · next hneg =>
    rw [if_neg hneg]
    calc earlier'.anniversary 0 ≤ earlier.anniversary 0 := hback 0
      _ < later.anniversary (1 - n) := h
      _ ≤ later'.anniversary (1 - n) := hon (1 - n)

/--
**Gaps grow when dates are moved apart.** The whole years between two dates do not become fewer when
the later date is moved on, and not more when the earlier one is; so a minimum that is reached is
also reached by dates further apart, and so is a lower one.
-/
theorem yearsBetween_monotone :
    (∀ earlier later later' : Date, later ≤ later' →
      yearsBetween earlier later ≤ yearsBetween earlier later') ∧
    (∀ earlier earlier' later : Date, earlier' ≤ earlier →
      yearsBetween earlier later ≤ yearsBetween earlier' later) ∧
    ∀ (earlier earlier' later later' : Date) (years years' : UInt32), earlier' ≤ earlier →
      later ≤ later' → years' ≤ years → gapAtLeast earlier later years = true →
        gapAtLeast earlier' later' years' = true := by
  refine ⟨fun earlier later later' h => ?_, fun earlier earlier' later h => ?_, ?_⟩
  · exact le_yearsBetween_of_apart (le_refl earlier) h (Int.le_refl _)
  · exact le_yearsBetween_of_apart h (le_refl later) (Int.le_refl _)
  · intro earlier earlier' later later' years years' hearlier hlater hyears h
    rw [gapAtLeast, decide_eq_true_iff] at h ⊢
    have hfewer : (years'.toNat : Int) ≤ years.toNat := Int.ofNat_le.mpr hyears
    exact le_yearsBetween_of_apart hearlier hlater (hfewer.trans h)

/-- A parent born on the 29th of February is old enough if one born two days later is. -/
theorem gapAtLeast_of_leapDay :
    gapAtLeast ⟨1988, 3, 2, by decide, by decide, by decide⟩
      ⟨2003, 3, 2, by decide, by decide, by decide⟩ 15 = true ∧
    gapAtLeast ⟨1988, 2, 29, by decide, by decide, by decide⟩
      ⟨2003, 3, 31, by decide, by decide, by decide⟩ 14 = true := by
  have hreached : gapAtLeast ⟨1988, 3, 2, by decide, by decide, by decide⟩
      ⟨2003, 3, 2, by decide, by decide, by decide⟩ 15 = true := by decide
  refine ⟨hreached, yearsBetween_monotone.2.2 _ _ _ _ 15 14 ?_ ?_ (by decide) hreached⟩
  · exact Date.le_iff.mpr (.inl (by decide))
  · exact Date.le_iff.mpr (.inr (by decide))

end Birthright.Calendar
