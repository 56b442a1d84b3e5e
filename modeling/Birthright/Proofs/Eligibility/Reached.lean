import Birthright.Proofs.Eligibility.Course

/-!
# The references that are reached

The references of a form are checked one after the other, and the first that vouches ends the
evaluation. So the usage guard is asked about the first of the numbers that the form cites, each in
the role in which it is cited, and the last that it was asked about belongs to the reference that
decides.

* `Walk.reached` — a walk checks the references up to one, whose check comes to the finding
* `evaluateParents_last` — if no parent vouches, the last one decides alone
-/

namespace Birthright

open Calendar (Date)

/-- The number that a call checks, with the role in which it is checked. -/
def Call.checked? : Call → Option (Nin × String)
  | .isOverused nin role => some (nin, role)
  | _ => none

/-- The numbers that are checked, in the order of the checks. -/
def checkedIn (t : List Exchange) : List (Nin × String) := t.filterMap (·.call.checked?)

@[simp] theorem checkedIn_append (t u : List Exchange) :
    checkedIn (t ++ u) = checkedIn t ++ checkedIn u := List.filterMap_append

variable {r : Rules} {a : Applicant} {born : Date} {t : List Exchange} {f : Finding}

/-- The check of a reference checks its number, and no other. -/
theorem Reference.Checked.checkedIn {ref : Reference} (h : ref.Checked t f) :
    checkedIn t = [(ref.nin, ref.role)] := by
  cases h <;> rfl

/-- **A walk ends with the check of one reference**, and those before it were checked in order. -/
theorem Walk.reached {refs : List Reference} (h : Walk refs t f) :
    ∃ before ref others u block, refs = before ++ ref :: others ∧ t = u ++ block ∧
      ref.Checked block f ∧ checkedIn t = (before ++ [ref]).map fun ref => (ref.nin, ref.role) := by
  induction h with
  | @failed ref others t e h => exact ⟨[], ref, others, [], t, rfl, rfl, h, h.checkedIn⟩
  | @accepted ref others t v h hyes => exact ⟨[], ref, others, [], t, rfl, rfl, h, h.checkedIn⟩
  | @exhausted ref t v h hno => exact ⟨[], ref, [], [], t, rfl, rfl, h, h.checkedIn⟩
  | @passedOver ref others t u v f h hno hrest ih =>
    obtain ⟨before, last, others, u', block, rfl, rfl, hlast, hchecked⟩ := ih
    refine ⟨ref :: before, last, others, t ++ u', block, rfl, by simp, hlast, ?_⟩
    rw [checkedIn_append, h.checkedIn, hchecked]
    rfl

/-- **If no parent vouches, the last one decides**, as if there were no other. -/
theorem tryParents_last {before : List (ParentRole × Nin)} {role : ParentRole} {nin : Nin}
    {last : Option Verdict} {v : Verdict}
    (h : (tryParents r a born (before ++ [(role, nin)]) last).Yields t (.ok v))
    (hno : v.eligible = false) :
    ∃ u block, t = u ++ block ∧ (tryParents r a born [(role, nin)] none).Yields block (.ok v) := by
  induction before generalizing last t with
  -- The verdict before counts only where nobody is left.
  | nil => exact ⟨[], t, rfl, h⟩
  | cons parent others ih =>
    obtain ⟨u, x, w, rfl, -, hend⟩ := tryParents_cons_course h
    rcases hend with ⟨-, rfl, hyes⟩ | ⟨v', -, -, hrest⟩
    · exact absurd (hyes v rfl) (by simp [hno])
    · obtain ⟨u', block, rfl, hlast⟩ := ih hrest
      exact ⟨u ++ u', block, by simp, hlast⟩

end Birthright
