import Birthright.Eligibility.Evaluation
import Birthright.Proofs.Collaborator.Renaming

/-!
# Evaluations do not depend on the numbers themselves

The evaluation of a form with other numbers asks alike questions, notes the same events and comes to
the same finding, if the endings of the numbers are the same.

* `Applicant.ofFields_renamed` — the applicant on a form with other numbers
* `checkParent_alike`, `checkGuardian_alike` — the checks of single persons
* `evaluate_alike` — the evaluation of a registration
-/

namespace Birthright

open Calendar (Date)

variable {ρ : Renaming}

/-! ## Applicants -/

/-- The applicant with other numbers. -/
def Applicant.rename (ρ : Renaming) (a : Applicant) : Applicant :=
  { a with
    fatherNin := a.fatherNin.map ρ
    motherNin := a.motherNin.map ρ
    guardianNin := a.guardianNin.map ρ }

/-- All numbers on the form are proper. -/
structure Applicant.Proper (a : Applicant) : Prop where
  father : ∀ n, a.fatherNin = some n → n.Proper
  mother : ∀ n, a.motherNin = some n → n.Proper
  guardian : ∀ n, a.guardianNin = some n → n.Proper

namespace Applicant

variable {a : Applicant}

theorem proper_ofFields (id : RegistrationId) (fields : Table String String) :
    (ofFields id fields).Proper := by
  have hproper (f : FormField) (n : Nin)
      (h : (Table.get? fields f.name).bind Nin.ofText? = some n) : n.Proper := by
    obtain ⟨raw, -, hraw⟩ := Option.bind_eq_some_iff.mp h
    exact Nin.proper_of_ofText? hraw
  exact ⟨hproper .fatherNin, hproper .motherNin, hproper .guardianNin⟩

/-- **On a form with other numbers** there is the same applicant with other numbers. -/
theorem ofFields_renamed {fields fields' : Table String String} (h : ρ.AlikeForms fields fields')
    (id : RegistrationId) : ofFields id fields' = (ofFields id fields).rename ρ := by
  have hnumber (f : FormField) (hf : f.isNumber = true) := h.numbers f hf
  have hother (f : FormField) (hf : f.isNumber = false) := h.others f hf
  unfold ofFields
  simp only [hnumber .fatherNin rfl, hnumber .motherNin rfl, hnumber .guardianNin rfl,
    hother .citizenshipType rfl, hother .dateOfBirth rfl, hother .tribe rfl, hother .clan rfl,
    hother .guardianRelationship rfl, hother .guardianTribe rfl, hother .guardianClan rfl]
  rfl

@[simp] theorem hasParent_rename : (a.rename ρ).hasParent = a.hasParent := by
  simp [hasParent, rename]

theorem parents_rename : (a.rename ρ).parents = a.parents.map fun p => (p.1, ρ p.2) := by
  unfold parents rename
  cases a.fatherNin <;> cases a.motherNin <;> rfl

theorem Proper.parents (h : a.Proper) : ∀ p ∈ a.parents, p.2.Proper := by
  intro p hp
  rcases List.mem_append.mp hp with hp | hp
  · obtain ⟨n, hn, rfl⟩ := Option.map_eq_some_iff.mp (Option.mem_toList.mp hp)
    exact h.father n hn
  · obtain ⟨n, hn, rfl⟩ := Option.map_eq_some_iff.mp (Option.mem_toList.mp hp)
    exact h.mother n hn

/-- The same citations are made with other numbers. -/
theorem citations_rename : (a.rename ρ).citations = a.citations.map fun c => (ρ c.1, c.2) := by
  unfold citations
  rw [hasParent_rename, parents_rename]
  split
  · rw [List.map_map, List.map_map]
    rfl
  · unfold rename relationshipLabel?
    cases a.guardianNin <;> cases a.guardianRelationship.bind firstValue? <;> rfl

theorem Proper.citations (h : a.Proper) : ∀ c ∈ a.citations, c.1.Proper := by
  intro c hc
  unfold Applicant.citations at hc
  split at hc
  · obtain ⟨p, hp, rfl⟩ := List.mem_map.mp hc
    exact h.parents p hp
  · split at hc
    · next n label hn _ =>
      obtain rfl := List.mem_singleton.mp hc
      exact h.guardian n hn
    · cases hc

end Applicant

/-! ## Single persons -/

section Persons

variable {r : Rules} {a : Applicant} {born : Date} {n : Nin}

/-- **The check of a parent** does not depend on the number itself. -/
theorem checkParent_alike {role : ParentRole} (hn : n.Proper) :
    (checkParent r a born role n).Alike ρ Eq (checkParent r (a.rename ρ) born role (ρ n)) := by
  unfold checkParent
  rw [ρ.masked hn]
  refine .isOverused hn fun answer => ?_
  cases answer with
  | error e => exact .pure rfl
  | ok overused =>
    cases overused with
    | true => exact .noted _
    | false =>
      refine .document hn fun answer => ?_
      cases answer with
      | error e => exact .pure rfl
      | ok found =>
        cases found with
        | none => exact .noted _
        | some d => exact .noted (judgeParent r a born role d)

/-- **The check of a guardian** does not depend on the number itself. -/
theorem checkGuardian_alike {label : String} (hn : n.Proper) :
    (checkGuardian r a born n label).Alike ρ Eq
      (checkGuardian r (a.rename ρ) born (ρ n) label) := by
  unfold checkGuardian
  rw [ρ.masked hn]
  refine .isOverused hn fun answer => ?_
  cases answer with
  | error e => exact .pure rfl
  | ok overused =>
    cases overused with
    | true => exact .noted _
    | false =>
      dsimp only
      split
      · exact .pure rfl
      · refine .document hn fun answer => ?_
        cases answer with
        | error e => exact .pure rfl
        | ok found =>
          cases found with
          | none => exact .noted _
          | some d => exact .noted (judgeGuardian r a born label d)

/-- One parent after the other is checked alike. -/
theorem tryParents_alike {parents : List (ParentRole × Nin)} (h : ∀ p ∈ parents, p.2.Proper)
    (last : Option Verdict) :
    (tryParents r a born parents last).Alike ρ Eq
      (tryParents r (a.rename ρ) born (parents.map fun p => (p.1, ρ p.2)) last) := by
  induction parents generalizing last with
  | nil => exact .pure rfl
  | cons p others ih =>
    obtain ⟨role, n⟩ := p
    refine (checkParent_alike (h _ List.mem_cons_self)).bind ?_
    rintro f _ rfl
    refine (Inquiry.Alike.noted (contain a role.label f)).bind ?_
    rintro f _ rfl
    cases f with
    | error e => exact .pure rfl
    | ok v =>
      dsimp only
      split
      · exact .pure rfl
      · exact .notes_bind (ih (fun p hp => h p (List.mem_cons_of_mem _ hp)) (some v))

end Persons

/-! ## The whole evaluation -/

variable {r : Rules} {a : Applicant}

theorem evaluateParents_alike (ha : a.Proper) (born : Date) :
    (evaluateParents r a born).Alike ρ Eq (evaluateParents r (a.rename ρ) born) := by
  unfold evaluateParents
  rw [Applicant.parents_rename]
  exact tryParents_alike ha.parents none

theorem evaluateGuardian_alike (ha : a.Proper) (born : Date) :
    (evaluateGuardian r a born).Alike ρ Eq (evaluateGuardian r (a.rename ρ) born) := by
  have hlabel : (a.rename ρ).relationshipLabel? = a.relationshipLabel? := rfl
  have hnumber : (a.rename ρ).guardianNin = a.guardianNin.map ρ := rfl
  unfold evaluateGuardian
  rw [hlabel, hnumber]
  cases hn : a.guardianNin with
  | none => exact .noted _
  | some n =>
    cases a.relationshipLabel? with
    | none => exact .noted _
    | some label =>
      have hproper := ha.guardian n hn
      dsimp only [Option.map_some]
      rw [ρ.masked hproper]
      refine .notes_bind ((checkGuardian_alike hproper).bind ?_)
      rintro f _ rfl
      exact .noted (contain a "GUARDIAN" f)

/-- **The evaluation of an applicant** does not depend on the numbers themselves. -/
theorem evaluateApplicant_alike (ha : a.Proper) :
    (evaluateApplicant r a).Alike ρ Eq (evaluateApplicant r (a.rename ρ)) := by
  have hclaim : (a.rename ρ).claim = a.claim := rfl
  have hborn : (a.rename ρ).dateOfBirth = a.dateOfBirth := rfl
  unfold evaluateApplicant
  rw [hclaim, hborn, Applicant.hasParent_rename]
  split
  · exact .noted _
  · cases a.dateOfBirth.bind r.date? with
    | none => exact .noted _
    | some born =>
      refine .notes_bind ?_
      dsimp only
      split
      · refine (evaluateParents_alike ha born).bind ?_
        rintro f _ rfl
        cases f with
        | error e => exact .pure rfl
        | ok v => exact .notes_bind (.pure rfl)
      · refine (evaluateGuardian_alike ha born).bind ?_
        rintro f _ rfl
        cases f with
        | error e => exact .pure rfl
        | ok v => exact .notes_bind (.pure rfl)

/-- Two applicants that were fetched: the same with other numbers. -/
inductive Renaming.AlikeApplicants (ρ : Renaming) :
    Except EvaluationFailure Applicant → Except EvaluationFailure Applicant → Prop where
  | failed (e : EvaluationFailure) : AlikeApplicants ρ (.error e) (.error e)
  | fetched {a : Applicant} (ha : a.Proper) : AlikeApplicants ρ (.ok a) (.ok (a.rename ρ))

/-- What two evaluations came to: the same verdict on the same applicant with other numbers. -/
inductive Renaming.AlikeFindings (ρ : Renaming) : Except EvaluationFailure (Applicant × Verdict) →
    Except EvaluationFailure (Applicant × Verdict) → Prop where
  | failed (e : EvaluationFailure) : AlikeFindings ρ (.error e) (.error e)
  | found {a : Applicant} (ha : a.Proper) (v : Verdict) :
      AlikeFindings ρ (.ok (a, v)) (.ok (a.rename ρ, v))

theorem fetchApplicant_alike (id : RegistrationId) :
    (fetchApplicant id).Alike ρ ρ.AlikeApplicants (fetchApplicant id) := by
  refine .notes_bind (.fields (fun e => .pure (.failed (.fields e))) fun fields fields' h => ?_)
  dsimp only
  rw [Applicant.ofFields_renamed h]
  exact .pure (.fetched (Applicant.proper_ofFields id fields))

/-- **The evaluation of a registration** does not depend on the numbers on its form. -/
theorem assess_alike (r : Rules) (id : RegistrationId) :
    (assess r id).Alike ρ ρ.AlikeFindings (assess r id) := by
  refine (fetchApplicant_alike id).bind ?_
  rintro x x' (⟨e⟩ | ⟨ha⟩)
  · exact .pure (.failed e)
  · refine (evaluateApplicant_alike ha).bind ?_
    rintro f _ rfl
    cases f with
    | error e => exact .pure (.failed e)
    | ok v => exact .pure (.found ha v)

theorem evaluate_alike (r : Rules) (id : RegistrationId) :
    (evaluate r id).Alike ρ Eq (evaluate r id) := by
  refine (assess_alike r id).bind ?_
  rintro x x' (⟨e⟩ | ⟨ha, v⟩)
  · exact .pure rfl
  · exact .pure rfl

end Birthright
