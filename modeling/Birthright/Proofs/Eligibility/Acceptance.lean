import Birthright.Eligibility.Evaluation
import Birthright.Proofs.Collaborator.Conduct

/-!
# Who is eligible

The evaluation asks one collaborator after the other and may stop at any answer. Here it is said
without any order of calls which answers make an applicant eligible, and shown that the evaluation
comes to an eligible verdict with exactly these.

* `judgeParent_eligible_iff`, `judgeGuardian_eligible_iff` — which documents vouch for the applicant
* `checkParent_eligible_iff`, `checkGuardian_eligible_iff` — which answers of the guard and the
  registry do
* `eligible_iff_vouched` — the whole evaluation
-/

namespace Birthright

open Calendar (Date gapAtLeast)

/-- A check came to the verdict that the applicant is eligible. -/
def Finding.Eligible (f : Finding) : Prop := ∃ v, f = .ok v ∧ v.eligible = true

namespace Finding

@[simp] theorem eligible_ok {v : Verdict} : Eligible (.ok v) ↔ v.eligible = true := by
  simp [Eligible]

@[simp] theorem not_eligible_error {e : EvaluationFailure} : ¬Eligible (.error e) := by
  simp [Eligible]

theorem eq_ok_iff {f : Finding} {v : Verdict} : f = .ok v ↔ f.toOption = some v := by
  cases f <;> simp [Except.toOption]

end Finding

@[simp] theorem Verdict.eligible_pass (detail : String) : (Verdict.pass detail).eligible = true := rfl

@[simp] theorem Verdict.eligible_fail (reason : Reason) (detail : String) :
    (Verdict.fail reason detail).eligible = false := rfl

/-- The boundary of a check makes nobody eligible. -/
@[simp] theorem contain_eligible_iff {a : Applicant} {branch : String} {f : Finding} :
    (contain a branch f).2.Eligible ↔ f.Eligible := by
  cases f with
  | ok v => rfl
  | error e =>
    rw [contain]
    split <;> simp

/-! ## Documents -/

/-- Both texts are known, and they are the same in lower case. -/
def SameKnown (a b : Option String) : Prop :=
  ∃ s t, a = some s ∧ b = some t ∧ Text.lower s.toList = Text.lower t.toList

/-- Tribe and clan in a document agree with those on a form. -/
def Document.AgreesWith (d : Document) (tribe clan : Option String) : Prop :=
  SameKnown ((d.fieldText? "tribe").bind firstValue?) (tribe.bind firstValue?) ∧
    SameKnown ((d.fieldText? "clan").bind firstValue?) (clan.bind firstValue?)

/-- A document names a readable date of birth at least so many years before another day. -/
def Rules.OldEnough (r : Rules) (gap : UInt32) (d : Document) (born : Date) : Prop :=
  ∃ raw birth, d.get? "dateOfBirth" = some (.str raw) ∧ r.date? raw = some birth ∧
    gapAtLeast birth born gap = true

theorem sameText_iff {a b : Option String} : Lineage.sameText a b = true ↔ SameKnown a b := by
  unfold SameKnown
  cases a <;> cases b <;> simp [Lineage.sameText]

theorem mismatch?_eq_none_iff {a b : Lineage} :
    a.mismatch? b = none ↔ SameKnown a.tribe b.tribe ∧ SameKnown a.clan b.clan := by
  rw [← sameText_iff, ← sameText_iff]
  unfold Lineage.mismatch?
  split
  · next h => simp_all
  · split <;> simp_all

theorem mismatch?_ofDocument (label name : String) {d : Document} {tribe clan : Option String} :
    (Lineage.ofDocument label d).mismatch? (Lineage.ofForm name tribe clan) = none
      ↔ d.AgreesWith tribe clan := mismatch?_eq_none_iff

/-- The date of birth in a document counts as soon as it is a readable text. -/
theorem birthIn_eq_ok_some_iff {r : Rules} {d : Document} {birth : Date} :
    r.birthIn d = .ok (some birth)
      ↔ ∃ raw, d.get? "dateOfBirth" = some (.str raw) ∧ r.date? raw = some birth := by
  simp only [Rules.birthIn, FormField.name]
  split
  · next h => simp [h]
  · next h => simp [h]
  · next raw h => simp [h]
  · next v _ hstr h =>
    -- A value that is neither null nor a text makes the document malformed.
    simp only [reduceCtorEq, false_iff, h]
    rintro ⟨raw, hraw, -⟩
    exact hstr raw (Option.some.inj hraw)

theorem oldEnough_iff {r : Rules} {gap : UInt32} {d : Document} {born : Date} :
    r.OldEnough gap d born ↔ ∃ birth, r.birthIn d = .ok (some birth) ∧
      gapAtLeast birth born gap = true := by
  simp only [birthIn_eq_ok_some_iff]
  constructor
  · rintro ⟨raw, birth, hd, hr, hg⟩
    exact ⟨birth, ⟨raw, hd, hr⟩, hg⟩
  · rintro ⟨birth, ⟨raw, hd, hr⟩, hg⟩
    exact ⟨raw, birth, hd, hr, hg⟩

/-- **A document vouches for a parent** who is old enough and agrees in tribe and clan. -/
theorem judgeParent_eligible_iff {r : Rules} {a : Applicant} {born : Date} {role : ParentRole}
    {d : Document} : (judgeParent r a born role d).2.Eligible
      ↔ r.OldEnough r.parentGap d born ∧ d.AgreesWith a.tribe a.clan := by
  rw [oldEnough_iff]
  unfold judgeParent
  cases hbirth : r.birthIn d with
  | error e => simp
  | ok birth =>
    cases birth with
    | none => simp
    | some day =>
      by_cases hgap : gapAtLeast day born r.parentGap = true
      · rw [← mismatch?_ofDocument (role.label ++ " in registry") "Applicant"]
        simp only [Option.filter_some, hgap, if_true]
        split <;> simp_all
      · simp [hgap, Option.filter]

theorem judgeGrandparent_eligible_iff {r : Rules} {a : Applicant} {born : Date} {label : String}
    {d : Document} : (judgeGrandparent r a born label d).2.Eligible
      ↔ r.OldEnough r.grandparentGap d born ∧ d.AgreesWith a.guardianTribe a.guardianClan := by
  rw [oldEnough_iff, ← mismatch?_ofDocument (label ++ " in registry") "Guardian on form"]
  unfold judgeGrandparent
  cases hbirth : r.birthIn d with
  | error e => simp
  | ok birth =>
    cases birth with
    | none => simp
    | some day =>
      by_cases hgap : gapAtLeast day born r.grandparentGap = true
      · simp only [Option.any_some, hgap, if_true, guardianLineages]
        split <;> simp_all [lineageFailure]
      · simp [hgap]

theorem judgeCollateral_eligible_iff {r : Rules} {a : Applicant} {label : String} {d : Document} :
    (judgeCollateral r a label d).2.Eligible
      ↔ (r.collateralLineageDecides = true → d.AgreesWith a.guardianTribe a.guardianClan) := by
  rw [← mismatch?_ofDocument (label ++ " in registry") "Guardian on form"]
  simp only [judgeCollateral, guardianLineages]
  split
  · next h => simp [h]
  · next m h =>
    split
    · next hdecides => simp [lineageFailure, hdecides, h]
    · next hdecides => simp [hdecides]

/-- A document vouches for a guardian in a relationship that is looked up in the registry. -/
def Document.VouchesForGuardian (r : Rules) (a : Applicant) (born : Date) (label : String)
    (d : Document) : Prop :=
  (GuardianCheck.ofLabel? label = some .grandparent ∧ r.OldEnough r.grandparentGap d born ∧
      d.AgreesWith a.guardianTribe a.guardianClan) ∨
    ((GuardianCheck.ofLabel? label = some .sibling ∨ GuardianCheck.ofLabel? label = some .uncleAunt) ∧
      (r.collateralLineageDecides = true → d.AgreesWith a.guardianTribe a.guardianClan))

/-- **A document vouches for a guardian** as the relationship demands. -/
theorem judgeGuardian_eligible_iff {r : Rules} {a : Applicant} {born : Date} {label : String}
    {d : Document} (hcousin : GuardianCheck.ofLabel? label ≠ some .firstCousin) :
    (judgeGuardian r a born label d).2.Eligible ↔ d.VouchesForGuardian r a born label := by
  unfold judgeGuardian Document.VouchesForGuardian
  split
  · next h => simp [h, judgeGrandparent_eligible_iff]
  · next h => simp [h, judgeCollateral_eligible_iff]
  · next h => simp [h, judgeCollateral_eligible_iff]
  · next h => exact absurd h hcousin
  · next h => simp [h]

/-! ## Answers -/

section Answers

variable (answers : (c : Call) → c.Answer) (r : Rules) (a : Applicant) (born : Date)

/-- The guard and the registry accept a parent. -/
def ParentAccepted (role : ParentRole) (nin : Nin) : Prop :=
  answers (.isOverused nin role.label) = .ok false ∧
    ∃ d, answers (.document nin) = .ok (some d) ∧ r.OldEnough r.parentGap d born ∧
      d.AgreesWith a.tribe a.clan

/-- The guard and the registry accept a guardian in a relationship. -/
def GuardianAccepted (nin : Nin) (label : String) : Prop :=
  answers (.isOverused nin label) = .ok false ∧
    (GuardianCheck.ofLabel? label = some .firstCousin ∨
      ∃ d, answers (.document nin) = .ok (some d) ∧ d.VouchesForGuardian r a born label)

/-- The registry is asked about a number and fails. -/
def LookupFails (nin : Nin) (role : String) : Prop :=
  answers (.isOverused nin role) = .ok false ∧ ∃ e, answers (.document nin) = .error e

variable {answers r a born}

theorem checkParent_eligible_iff {role : ParentRole} {nin : Nin} :
    ((checkParent r a born role nin).resultWith answers).Eligible
      ↔ ParentAccepted answers r a born role nin := by
  unfold checkParent ParentAccepted
  rw [Inquiry.resultWith_bind, Inquiry.resultWith_isOverused]
  split
  · next e h => simp [h]
  · next h => simp [h]
  · next h =>
    rw [Inquiry.resultWith_bind, Inquiry.resultWith_document]
    split
    · next e hd => simp [hd]
    · next hd => simp [hd]
    · next d hd => simp [h, hd, judgeParent_eligible_iff]

theorem checkGuardian_eligible_iff {nin : Nin} {label : String} :
    ((checkGuardian r a born nin label).resultWith answers).Eligible
      ↔ GuardianAccepted answers r a born nin label := by
  unfold checkGuardian GuardianAccepted
  rw [Inquiry.resultWith_bind, Inquiry.resultWith_isOverused]
  split
  · next e h => simp [h]
  · next h => simp [h]
  · next h =>
    split
    · next hcousin => simp [h, hcousin, firstCousinVerdict]
    · next hcousin =>
      rw [Inquiry.resultWith_bind, Inquiry.resultWith_document]
      split
      · next e hd => simp [hd, hcousin]
      · next hd => simp [hd, hcousin]
      · next d hd => simp [h, hd, hcousin, judgeGuardian_eligible_iff hcousin]

/-- A malformed date of birth is no reason for another try. -/
theorem birthIn_error {d : Document} {e : EvaluationFailure} (h : r.birthIn d = .error e) :
    e.isRetryable = false := by
  simp only [Rules.birthIn] at h
  split at h <;> cases h
  rfl

/-- A judgement of a document fails only in a way that stays within the check. -/
theorem judgeParent_error {role : ParentRole} {d : Document} {e : EvaluationFailure}
    (h : (judgeParent r a born role d).2 = .error e) : e.isRetryable = false := by
  unfold judgeParent at h
  split at h
  · next e' hbirth =>
    cases h
    exact birthIn_error hbirth
  · split at h
    · cases h
    · dsimp only at h
      split at h <;> cases h

theorem judgeGuardian_error {label : String} {d : Document} {e : EvaluationFailure}
    (h : (judgeGuardian r a born label d).2 = .error e) : e.isRetryable = false := by
  unfold judgeGuardian at h
  split at h
  · unfold judgeGrandparent at h
    split at h
    · next e' hbirth =>
      cases h
      exact birthIn_error hbirth
    · split at h
      · dsimp only at h
        split at h <;> cases h
      · cases h
  all_goals
    simp only [judgeCollateral] at h
    repeat' split at h
    all_goals cases h

/-- **The check of a parent lets a failure through** exactly when the registry fails. -/
theorem contain_checkParent_error_iff {role : ParentRole} {nin : Nin} :
    (∃ e, (contain a role.label ((checkParent r a born role nin).resultWith answers)).2 = .error e)
      ↔ LookupFails answers nin role.label := by
  unfold checkParent LookupFails
  rw [Inquiry.resultWith_bind, Inquiry.resultWith_isOverused]
  split
  · next e h => simp [h, contain, EvaluationFailure.isRetryable]
  · next h => simp [h, contain]
  · next h =>
    rw [Inquiry.resultWith_bind, Inquiry.resultWith_document]
    -- A failure of the guard is contained, and so is a malformed document.
    split
    · next e hd => simp [h, hd, contain, EvaluationFailure.isRetryable]
    · next hd => simp [hd, contain]
    · next d hd =>
      rw [Inquiry.resultWith_noted]
      cases hjudge : (judgeParent r a born role d).2 with
      | ok v => simp [hd, contain]
      | error e => simp [hd, contain, judgeParent_error hjudge]

/-! ## The whole evaluation -/

/-- The first parent decides, or else those after the first if the registry does not fail. -/
theorem tryParents_cons_eligible_iff {role : ParentRole} {nin : Nin}
    {others : List (ParentRole × Nin)} {last : Option Verdict} {rest : Prop}
    (hrest : ∀ v : Verdict, v.eligible = false →
      (((tryParents r a born others (some v)).resultWith answers).Eligible ↔ rest)) :
    ((tryParents r a born ((role, nin) :: others) last).resultWith answers).Eligible
      ↔ ParentAccepted answers r a born role nin ∨
        (¬ParentAccepted answers r a born role nin ∧ ¬LookupFails answers nin role.label ∧ rest) := by
  have haccepted :
      (contain a role.label ((checkParent r a born role nin).resultWith answers)).2.Eligible
        ↔ ParentAccepted answers r a born role nin :=
    contain_eligible_iff.trans checkParent_eligible_iff
  have hfails :
      (∃ e, (contain a role.label ((checkParent r a born role nin).resultWith answers)).2 = .error e)
        ↔ LookupFails answers nin role.label := contain_checkParent_error_iff
  -- What happens next depends only on the finding of the check, behind its boundary.
  rw [tryParents, Inquiry.resultWith_bind, Inquiry.resultWith_bind, Inquiry.resultWith_noted,
    ← haccepted, ← hfails]
  cases (contain a role.label ((checkParent r a born role nin).resultWith answers)).2 with
  | error e => simp
  | ok v =>
    cases hv : v.eligible with
    | true => simp [hv]
    | false => simp [hv, hrest v hv]

/-- No parent is left: what counts is the verdict before, which made nobody eligible. -/
theorem tryParents_nil_eligible {v : Verdict} (hv : v.eligible = false) :
    ¬((tryParents r a born [] (some v)).resultWith answers).Eligible := by
  simp [tryParents, hv]

/-- The only parent left decides. -/
theorem tryParents_singleton_eligible_iff {role : ParentRole} {nin : Nin} {last : Option Verdict} :
    ((tryParents r a born [(role, nin)] last).resultWith answers).Eligible
      ↔ ParentAccepted answers r a born role nin := by
  rw [tryParents_cons_eligible_iff fun v hv => iff_false_intro (tryParents_nil_eligible hv)]
  simp

variable (answers r a born) in
/-- One of the parents that are cited is accepted: the mother counts if the father does not. -/
def ParentsAccepted : Prop :=
  (∃ father, a.fatherNin = some father ∧ ParentAccepted answers r a born .father father) ∨
    ∃ mother, a.motherNin = some mother ∧ ParentAccepted answers r a born .mother mother ∧
      ∀ father, a.fatherNin = some father → ¬ParentAccepted answers r a born .father father ∧
        ¬LookupFails answers father ParentRole.father.label

theorem evaluateParents_eligible_iff :
    ((evaluateParents r a born).resultWith answers).Eligible ↔ ParentsAccepted answers r a born := by
  unfold evaluateParents Applicant.parents ParentsAccepted
  cases a.fatherNin with
  | none =>
    cases a.motherNin with
    | none => simp [tryParents, Finding.Eligible]
    | some mother => simp [tryParents_singleton_eligible_iff]
  | some father =>
    cases a.motherNin with
    | none => simp [tryParents_singleton_eligible_iff]
    | some mother =>
      simp only [Option.map_some, Option.toList_some, List.singleton_append]
      rw [tryParents_cons_eligible_iff fun v _ => tryParents_singleton_eligible_iff]
      constructor
      · rintro (hfather | ⟨hnot, hnofail, hmother⟩)
        · exact .inl ⟨father, rfl, hfather⟩
        · refine .inr ⟨mother, rfl, hmother, ?_⟩
          rintro _ ⟨⟩
          exact ⟨hnot, hnofail⟩
      · rintro (⟨_, ⟨⟩, hfather⟩ | ⟨_, ⟨⟩, hmother, hothers⟩)
        · exact .inl hfather
        · obtain ⟨hnot, hnofail⟩ := hothers father rfl
          exact .inr ⟨hnot, hnofail, hmother⟩

variable (answers r a born) in
/-- The guardian that is cited is accepted in the relationship that the form names. -/
def CitedGuardianAccepted : Prop :=
  ∃ nin label, a.guardianNin = some nin ∧ a.relationshipLabel? = some label ∧
    GuardianAccepted answers r a born nin label

theorem evaluateGuardian_eligible_iff :
    ((evaluateGuardian r a born).resultWith answers).Eligible
      ↔ CitedGuardianAccepted answers r a born := by
  unfold evaluateGuardian CitedGuardianAccepted
  split
  · next h => simp [h]
  · next hlabel => simp [hlabel]
  · next nin label hnin hlabel =>
    simp [hnin, hlabel, checkGuardian_eligible_iff]

/-- The parents or the guardian of an applicant are accepted: the guardian only without parents. -/
def Vouched (answers : (c : Call) → c.Answer) (r : Rules) (a : Applicant) (born : Date) : Prop :=
  if a.hasParent then ParentsAccepted answers r a born else CitedGuardianAccepted answers r a born

theorem evaluateApplicant_eligible_iff :
    ((evaluateApplicant r a).resultWith answers).Eligible
      ↔ a.claim = .byBirth ∧ ∃ born, a.dateOfBirth.bind r.date? = some born ∧
        Vouched answers r a born := by
  unfold evaluateApplicant
  by_cases hclaim : a.claim = .byBirth
  · rw [if_neg (not_not_intro hclaim)]
    cases hborn : a.dateOfBirth.bind r.date? with
    | none => simp
    | some born =>
      simp only [Inquiry.resultWith_bind, hclaim, true_and, Option.some.injEq, exists_eq_left',
        Vouched]
      -- What is noted after the check of the parents or the guardian does not change its finding.
      split
      · rw [← evaluateParents_eligible_iff, Inquiry.resultWith_bind]
        cases (evaluateParents r a born).resultWith answers <;> simp
      · rw [← evaluateGuardian_eligible_iff, Inquiry.resultWith_bind]
        cases (evaluateGuardian r a born).resultWith answers <;> simp
  · simp [hclaim]

end Answers

/-- **An applicant is eligible** exactly if the form can be read, claims citizenship by birth and
gives a readable date of birth, and the parents or the guardian are accepted. -/
theorem eligible_iff_vouched (answers : (c : Call) → c.Answer) (r : Rules) (id : RegistrationId) :
    (∃ v, (evaluate r id).resultWith answers = .ok v ∧ v.eligible = true)
      ↔ ∃ fields, answers (.fields id FormField.names) = .ok fields ∧
        (Applicant.ofFields id fields).claim = .byBirth ∧
        ∃ born, (Applicant.ofFields id fields).dateOfBirth.bind r.date? = some born ∧
          Vouched answers r (Applicant.ofFields id fields) born := by
  simp only [← evaluateApplicant_eligible_iff]
  unfold evaluate assess fetchApplicant
  simp only [Inquiry.resultWith_bind, Inquiry.resultWith_fields]
  cases answers (.fields id FormField.names) with
  | error e => simp [Except.map]
  | ok fields =>
    simp only [Inquiry.resultWith_pure, Inquiry.resultWith_bind, Except.ok.injEq,
      exists_eq_left', Finding.Eligible]
    cases (evaluateApplicant r (.ofFields id fields)).resultWith answers <;> simp [Except.map]

end Birthright
