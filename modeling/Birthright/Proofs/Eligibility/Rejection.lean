import Birthright.Proofs.Eligibility.Reached
import Birthright.Proofs.Eligibility.Requirements
import Birthright.Proofs.Eligibility.Strictness

/-!
# Reasons of rejections

An application is rejected because of the last reference that was checked, and for the first
requirement that this one does not meet. What was wrong with a father before does not matter once
the mother is checked: the verdict is the one that she alone would have given.

* `Reference.Checked.rejection` — the check of one person
* `reason_of_last_reference` — the whole evaluation
-/

namespace Birthright

open Calendar (Date)

variable {r : Rules} {a : Applicant} {born : Date} {t : List Exchange} {f : Finding}

/-! ## References -/

/-- What is heard about a person: from the guard, and from the registry if the number is cleared. -/
def heard (nin : Nin) (role : String) (isLookedUp : Bool) (guard : Except UsageFailure Bool)
    (found : Option Document) : List Exchange :=
  ⟨.isOverused nin role, guard⟩ ::
    match guard, isLookedUp with
    | .ok false, true => [⟨.document nin, .ok found⟩]
    | _, _ => []

theorem numberRequirements_met : ∀ q ∈ numberRequirements (.ok false), q.met := by
  simp [numberRequirements]

/-- **The check of a reference** that comes to a rejection tells what is not met first. -/
theorem Reference.Checked.rejection {ref : Reference} {v : Verdict}
    {ofDocument : Document → List Requirement} (h : ref.Checked t (.ok v))
    (hno : v.eligible = false) (hjudge : ∀ d, (ref.judge d).Follows (ofDocument d)) :
    ∃ guard found, t = heard ref.nin ref.role ref.isLookedUp guard found ∧
      FirstUnmet (referenceRequirements ref.isLookedUp ofDocument guard found) v.reason := by
  cases h with
  | guardFailed e =>
    refine ⟨.error e, none, rfl, .here ?_⟩
    rintro ⟨_, ⟨⟩⟩
  | overused detail => exact ⟨.ok true, none, rfl, .later ⟨true, rfl⟩ (.here fun h => h rfl)⟩
  | notLookedUp h => cases hno
  | unknown h detail =>
    refine ⟨.ok false, none, by rw [h]; rfl, ?_⟩
    rw [referenceRequirements, if_pos h]
    exact .append_right numberRequirements_met (.here fun hne => hne rfl)
  | judged h d =>
    have hunmet : FirstUnmet (ofDocument d) (ref.judge d).reason := by
      have hfollows := hjudge d
      rwa [Verdict.Follows, hno, if_neg Bool.false_ne_true] at hfollows
    refine ⟨.ok false, some d, by rw [h]; rfl, ?_⟩
    rw [referenceRequirements, if_pos h]
    refine .append_right numberRequirements_met (.later (Option.some_ne_none d) ?_)
    simpa using hunmet

/-! ## The whole evaluation -/

/-- What is heard if no parent is cited: nothing, unless the form names a guardian and a label. -/
def heardOfGuardian (a : Applicant) (guard : Except UsageFailure Bool) (found : Option Document) :
    List Exchange :=
  match a.guardianNin, a.relationshipLabel? with
  | some nin, some label =>
    heard nin label (GuardianCheck.ofLabel? label ≠ some .firstCousin) guard found
  | _, _ => []

/-- An application is rejected because of the last reference on it, of which this is heard. -/
inductive Rejected (r : Rules) (a : Applicant) (born : Date) (v : Verdict) :
    List Exchange → Prop where
  /-- The last parent decides. For the mother this is as if the father had not been cited. -/
  | parents {role : ParentRole} {nin : Nin} {u : List Exchange} {guard : Except UsageFailure Bool}
      {found : Option Document} (hlast : a.parents.getLast? = some (role, nin))
      (hreason : FirstUnmet (parentRequirements r a born guard found) v.reason)
      (halone : a.motherNin.isSome = true →
        (evaluateApplicant r { a with fatherNin := none }).Yields
          (heard nin role.label true guard found) (.ok v)) :
      Rejected r a born v (u ++ heard nin role.label true guard found)
  | guardian {guard : Except UsageFailure Bool} {found : Option Document}
      (hparent : a.hasParent = false)
      (hreason : FirstUnmet (guardianshipRequirements r a born guard found) v.reason) :
      Rejected r a born v (heardOfGuardian a guard found)

/-- Where parents are cited, they alone are evaluated. -/
theorem yields_evaluateApplicant_of_parents (hclaim : a.claim = .byBirth)
    (hborn : a.dateOfBirth.bind r.date? = some born) (hparent : a.hasParent = true) :
    (evaluateApplicant r a).Yields t f ↔ (evaluateParents r a born).Yields t f := by
  unfold evaluateApplicant
  rw [if_neg (not_not_intro hclaim), hborn]
  simp only [hparent, if_true, Inquiry.yields_notes_bind]
  refine ⟨yields_of_reported, fun h => ?_⟩
  rw [← List.append_nil t]
  refine h.bind ?_
  cases f <;> simp

/-- The last parent is the mother, if she is cited. -/
theorem Applicant.getLast?_parents {mother : Nin} (h : a.motherNin = some mother) :
    a.parents.getLast? = some (.mother, mother) := by
  simp [parents, h]

theorem Rejected.of_parents {v : Verdict} (hclaim : a.claim = .byBirth)
    (hborn : a.dateOfBirth.bind r.date? = some born) (hparent : a.hasParent = true)
    (h : (evaluateParents r a born).Yields t (.ok v)) (hno : v.eligible = false) :
    Rejected r a born v t := by
  obtain ⟨before, ⟨role, nin⟩, hparents⟩ :=
    (List.eq_nil_or_concat a.parents).resolve_left (Applicant.parents_ne_nil hparent)
  rw [List.concat_eq_append] at hparents
  have hlast : a.parents.getLast? = some (role, nin) := by simp [hparents]
  rw [evaluateParents, hparents] at h
  obtain ⟨u, block, rfl, hdecides⟩ := tryParents_last h hno
  obtain ⟨guard, found, rfl, hreason⟩ := (tryParents_course hdecides).checked.rejection hno
    (judgeParent_follows r a born role)
  refine .parents hlast hreason fun hmother => ?_
  obtain ⟨mother, hmother⟩ := Option.isSome_iff_exists.mp hmother
  rw [Applicant.getLast?_parents hmother] at hlast
  obtain ⟨rfl, rfl⟩ := Prod.mk.inj (Option.some.inj hlast)
  have halone : Applicant.parents { a with fatherNin := none } = [(.mother, mother)] := by
    simp [Applicant.parents, hmother]
  have hcited : Applicant.hasParent { a with fatherNin := none } = true := by
    simp [Applicant.hasParent, hmother]
  rw [yields_evaluateApplicant_of_parents (a := { a with fatherNin := none }) hclaim hborn hcited,
    evaluateParents, halone]
  exact hdecides

theorem Rejected.of_guardian {v : Verdict} (hparent : a.hasParent = false)
    (h : Walk (a.references r born) t (.ok v)) (hno : v.eligible = false) :
    Rejected r a born v t := by
  unfold Applicant.references at h
  rw [if_neg (by simp [hparent])] at h
  split at h
  · next nin label hnin hlabel =>
    obtain ⟨guard, found, ht, hreason⟩ :=
      h.checked.rejection hno (judgeGuardian_follows r a born label)
    have hheard : t = heardOfGuardian a guard found := by
      rw [ht, heardOfGuardian, hnin, hlabel]
      rfl
    rw [hheard]
    have hreason : FirstUnmet (guardianRequirements r a born label guard found) v.reason := hreason
    refine .guardian hparent (.later (by simp [hnin]) (.later (by simp [hlabel]) ?_))
    simpa [hlabel] using hreason
  · cases h

/-- **The reason of a rejection** is the first requirement that the last reference does not meet. -/
theorem reason_of_last_reference {σ : Type} (w : Collaborators σ) (r : Rules) (a : Applicant)
    (s : σ) {born : Date} (hclaim : a.claim = .byBirth)
    (hborn : a.dateOfBirth.bind r.date? = some born)
    (hup : Unbroken ((evaluateApplicant r a).exchanges w s)) :
    ∃ v, ((evaluateApplicant r a).run w s).result = .ok v ∧
      (v.eligible = false → Rejected r a born v ((evaluateApplicant r a).exchanges w s)) := by
  have hyields := Inquiry.yields_run w (evaluateApplicant r a) s
  generalize (evaluateApplicant r a).exchanges w s = t at hup hyields ⊢
  generalize ((evaluateApplicant r a).run w s).result = f at hyields ⊢
  have hcourse := evaluateApplicant_course hyields
  obtain ⟨v, rfl⟩ : ∃ v, f = .ok v := by
    cases f with
    | ok v => exact ⟨v, rfl⟩
    | error e =>
      obtain ⟨x, hx, hout⟩ := hcourse.told.error_iff.mp rfl
      rw [hup x hx] at hout
      cases hout
  refine ⟨v, rfl, fun hno => ?_⟩
  by_cases hparent : a.hasParent = true
  · exact .of_parents hclaim hborn hparent
      ((yields_evaluateApplicant_of_parents hclaim hborn hparent).mp hyields) hno
  · have hparent : a.hasParent = false := Bool.eq_false_iff.mpr hparent
    cases hcourse with
    | otherClaim hother => exact absurd hclaim hother
    | birthUnreadable _ hnone => simp [hnone] at hborn
    | guardianMissing _ _ _ hnin detail =>
      have hnothing : heardOfGuardian a (.ok false) none = [] := by simp [heardOfGuardian, hnin]
      rw [← hnothing]
      exact .guardian hparent (.here fun hne => hne hnin)
    | relationshipUnreadable _ _ _ hnin hlabel detail =>
      have hnothing : heardOfGuardian a (.ok false) none = [] := by
        simp [heardOfGuardian, hnin, hlabel]
      rw [← hnothing]
      exact .guardian hparent (.later (by simp [hnin]) (.here fun hne => hne hlabel))
    | @walked born' _ _ _ hborn' hwalk =>
      obtain rfl : born = born' := Option.some.inj (hborn.symm.trans hborn')
      exact .of_guardian hparent hwalk hno

/-- A mother in the registry who is too young, and of another tribe and clan. -/
def youngMother : Document where
  fields := [("dateOfBirth", .str "1990/01/01"), ("tribe", .str "[\x7b\"value\":\"U\"\x7d]"),
    ("clan", .str "[\x7b\"value\":\"D\"\x7d]")]

/-- The memory of a registration whose father is overused, and whose mother is too young. -/
def youngMotherMemory : Memory :=
  .fresh [(⟨"A"⟩, bothParentsForm)] [(⟨"F"⟩, parentOnForm), (⟨"M"⟩, youngMother)] (.listed [⟨"F"⟩])

/-- The father is passed over, and of all that is wrong with the mother her age comes first. -/
theorem reason_of_young_mother :
    ∃ born v, ((evaluateApplicant .standard (.ofFields ⟨"A"⟩ bothParentsForm)).run
        Memory.collaborators youngMotherMemory).result = .ok v ∧ v.reason = .ageDifferenceFailed ∧
      Rejected .standard (.ofFields ⟨"A"⟩ bothParentsForm) born v
        ((evaluateApplicant .standard (.ofFields ⟨"A"⟩ bothParentsForm)).exchanges
          Memory.collaborators youngMotherMemory) := by
  obtain ⟨born, hborn⟩ : ∃ born, (Applicant.ofFields ⟨"A"⟩ bothParentsForm).dateOfBirth.bind
      Rules.standard.date? = some born := Option.isSome_iff_exists.mp (by decide +kernel)
  have hup : Unbroken ((evaluateApplicant .standard (.ofFields ⟨"A"⟩ bothParentsForm)).exchanges
      Memory.collaborators youngMotherMemory) := by
    unfold Unbroken
    decide +kernel
  obtain ⟨v, hv, hrejected⟩ := reason_of_last_reference Memory.collaborators .standard
    (.ofFields ⟨"A"⟩ bothParentsForm) youngMotherMemory (by decide +kernel) hborn hup
  have hverdict : ((evaluateApplicant .standard (.ofFields ⟨"A"⟩ bothParentsForm)).run
      Memory.collaborators youngMotherMemory).result.toOption.map
        (fun v => (v.eligible, v.reason)) = some (false, .ageDifferenceFailed) := by
    decide +kernel
  rw [hv] at hverdict
  obtain ⟨hno, hreason⟩ := Prod.mk.inj (Option.some.inj hverdict)
  exact ⟨born, v, hv, hreason, hrejected hno⟩

end Birthright
