import Birthright.Collaborator.InMemory
import Birthright.Proofs.Collaborator.History
import Birthright.Proofs.Eligibility.Conduct

/-!
# Evaluations with stricter answers and tighter rules

Two evaluations of one applicant, of which the second is stricter: the registry says the same, the
usage guard clears no number that it did not clear before, and the rules ask for no less. Nobody
becomes eligible by this, although the two may not take the same course: the mother may be asked
only where the father no longer vouches.

* `evaluateApplicant_answered` — an evaluation comes to a verdict if the registry does not fail
* `Eligible.of_stricter` — no applicant becomes eligible
* `eligible_of_tightened` — nor does a registration
-/

namespace Birthright

open Calendar (Date)

variable {answers strict : (c : Call) → c.Answer} {r tight : Rules} {a : Applicant} {born : Date}

/-! ## Registries that do not fail -/

/-- The registry answers every question about a document. -/
def Answered (answers : (c : Call) → c.Answer) : Prop :=
  ∀ nin, ∃ d, answers (.document nin) = .ok d

theorem Answered.not_lookupFails (h : Answered answers) (nin : Nin) (role : String) :
    ¬LookupFails answers nin role := by
  rintro ⟨-, e, he⟩
  obtain ⟨d, hd⟩ := h nin
  rw [hd] at he
  cases he

/-- **The check of a guardian lets a failure through** exactly when the registry fails. -/
theorem contain_checkGuardian_error_iff {nin : Nin} {label branch : String} :
    (∃ e, (contain a branch ((checkGuardian r a born nin label).resultWith answers)).2 = .error e)
      ↔ LookupFails answers nin label ∧ GuardianCheck.ofLabel? label ≠ some .firstCousin := by
  unfold checkGuardian LookupFails
  rw [Inquiry.resultWith_bind, Inquiry.resultWith_isOverused]
  split
  · next e h => simp [h, contain, EvaluationFailure.isRetryable]
  · next h => simp [h, contain]
  · next h =>
    split
    · next hcousin => simp [hcousin, contain]
    · next hcousin =>
      rw [Inquiry.resultWith_bind, Inquiry.resultWith_document]
      split
      · next e hd => simp [h, hd, hcousin, contain, EvaluationFailure.isRetryable]
      · next hd => simp [hd, contain]
      · next d hd =>
        rw [Inquiry.resultWith_noted]
        cases hjudge : (judgeGuardian r a born label d).2 with
        | ok v => simp [hd, contain]
        | error e => simp [hd, contain, judgeGuardian_error hjudge]

theorem exists_ok_of_not_error {f : Finding} (h : ¬∃ e, f = .error e) : ∃ v, f = .ok v := by
  cases f with
  | ok v => exact ⟨v, rfl⟩
  | error e => exact absurd ⟨e, rfl⟩ h

theorem checkParent_answered (h : Answered answers) (role : ParentRole) (nin : Nin) :
    ∃ v, (contain a role.label ((checkParent r a born role nin).resultWith answers)).2 = .ok v :=
  exists_ok_of_not_error fun herror =>
    h.not_lookupFails nin role.label (contain_checkParent_error_iff.mp herror)

theorem tryParents_answered (h : Answered answers) (parents : List (ParentRole × Nin))
    (last : Option Verdict) : ∃ v, (tryParents r a born parents last).resultWith answers = .ok v := by
  induction parents generalizing last with
  | nil => exact ⟨_, rfl⟩
  | cons parent others ih =>
    obtain ⟨v, hv⟩ := checkParent_answered h parent.1 parent.2
    rw [tryParents, Inquiry.resultWith_bind, Inquiry.resultWith_bind, Inquiry.resultWith_noted, hv]
    cases hyes : v.eligible with
    | true => exact ⟨v, by simp [hyes]⟩
    | false =>
      obtain ⟨u, hu⟩ := ih (some v)
      exact ⟨u, by simpa [hyes] using hu⟩

theorem evaluateGuardian_answered (h : Answered answers) :
    ∃ v, (evaluateGuardian r a born).resultWith answers = .ok v := by
  unfold evaluateGuardian
  split
  · exact ⟨_, Inquiry.resultWith_noted answers _⟩
  · exact ⟨_, Inquiry.resultWith_noted answers _⟩
  · next nin label _ _ =>
    obtain ⟨v, hv⟩ := exists_ok_of_not_error
      (f := (contain a "GUARDIAN" ((checkGuardian r a born nin label).resultWith answers)).2)
      fun herror => h.not_lookupFails nin label (contain_checkGuardian_error_iff.mp herror).1
    exact ⟨v, by simpa using hv⟩

/-- What is noted after the check of the parents or the guardian does not change its finding. -/
theorem resultWith_evaluateApplicant (hclaim : a.claim = .byBirth)
    (hborn : a.dateOfBirth.bind r.date? = some born) :
    (evaluateApplicant r a).resultWith answers
      = (if a.hasParent then evaluateParents r a born
          else evaluateGuardian r a born).resultWith answers := by
  unfold evaluateApplicant
  rw [if_neg (not_not_intro hclaim), hborn]
  simp only [Inquiry.resultWith_bind]
  split
  · rw [Inquiry.resultWith_bind]
    cases (evaluateParents r a born).resultWith answers <;> simp
  · rw [Inquiry.resultWith_bind]
    cases (evaluateGuardian r a born).resultWith answers <;> simp

/-- **An evaluation comes to a verdict** if the registry does not fail. -/
theorem evaluateApplicant_answered (h : Answered answers) :
    ∃ v, (evaluateApplicant r a).resultWith answers = .ok v := by
  by_cases hclaim : a.claim = .byBirth
  · cases hborn : a.dateOfBirth.bind r.date? with
    | none =>
      unfold evaluateApplicant
      rw [if_neg (not_not_intro hclaim), hborn]
      exact ⟨_, Inquiry.resultWith_noted answers _⟩
    | some born =>
      rw [resultWith_evaluateApplicant hclaim hborn]
      split
      · exact tryParents_answered h a.parents none
      · exact evaluateGuardian_answered h
  · unfold evaluateApplicant
    rw [if_pos hclaim]
    exact ⟨_, Inquiry.resultWith_noted answers _⟩

/-! ## Stricter answers -/

/-- The registry says the same, and no number is cleared that was not cleared before. -/
structure Stricter (answers strict : (c : Call) → c.Answer) : Prop where
  document : ∀ nin, strict (.document nin) = answers (.document nin)
  cleared : ∀ nin role, strict (.isOverused nin role) = .ok false →
    answers (.isOverused nin role) = .ok false

theorem Answered.of_stricter (h : Stricter answers strict) (hanswered : Answered answers) :
    Answered strict := by
  intro nin
  rw [h.document]
  exact hanswered nin

/-- **A guard that does not fail** is stricter if whoever was overused still is. -/
theorem Stricter.of_overused (hdocument : ∀ nin, strict (.document nin) = answers (.document nin))
    (hguard : ∀ nin role, ∃ b, answers (.isOverused nin role) = .ok b)
    (hoverused : ∀ nin role, answers (.isOverused nin role) = .ok true →
      strict (.isOverused nin role) = .ok true) : Stricter answers strict := by
  refine ⟨hdocument, fun nin role hcleared => ?_⟩
  obtain ⟨b, hb⟩ := hguard nin role
  cases b with
  | false => exact hb
  | true =>
    rw [hoverused nin role hb] at hcleared
    cases hcleared

/-! ## Tighter rules -/

/-- The second rules read dates alike and ask for no less than the first ones. -/
structure Rules.Tighter (r tight : Rules) : Prop where
  datePattern : tight.datePattern = r.datePattern
  parentGap : r.parentGap ≤ tight.parentGap
  grandparentGap : r.grandparentGap ≤ tight.grandparentGap
  collateralLineage : r.collateralLineageDecides = true → tight.collateralLineageDecides = true

theorem Rules.Tighter.refl (r : Rules) : r.Tighter r :=
  ⟨rfl, UInt32.le_refl _, UInt32.le_refl _, id⟩

theorem Rules.Tighter.date? (h : r.Tighter tight) (raw : String) :
    tight.date? raw = r.date? raw := by
  unfold Rules.date?
  rw [h.datePattern]

/-- Who is old enough for a greater gap is so for a smaller one. -/
theorem Rules.OldEnough.of_tighter (h : r.Tighter tight) {gap gap' : UInt32} (hgap : gap ≤ gap')
    {d : Document} (hold : tight.OldEnough gap' d born) : r.OldEnough gap d born := by
  obtain ⟨raw, birth, hd, hbirth, hyears⟩ := hold
  rw [h.date?] at hbirth
  refine ⟨raw, birth, hd, hbirth, ?_⟩
  unfold Calendar.gapAtLeast at hyears ⊢
  rw [decide_eq_true_iff] at hyears ⊢
  have hle : gap.toNat ≤ gap'.toNat := UInt32.le_iff_toNat_le.mp hgap
  omega

theorem Document.VouchesForGuardian.of_tighter (h : r.Tighter tight) {label : String}
    {d : Document} (hvouches : d.VouchesForGuardian tight a born label) :
    d.VouchesForGuardian r a born label := by
  rcases hvouches with ⟨hcheck, hold, hagrees⟩ | ⟨hcheck, hagrees⟩
  · exact .inl ⟨hcheck, hold.of_tighter h h.grandparentGap, hagrees⟩
  · exact .inr ⟨hcheck, fun hdecides => hagrees (h.collateralLineage hdecides)⟩

/-! ## Who is still eligible -/

theorem ParentAccepted.of_stricter (hr : r.Tighter tight) (h : Stricter answers strict)
    {role : ParentRole} {nin : Nin} (haccepted : ParentAccepted strict tight a born role nin) :
    ParentAccepted answers r a born role nin := by
  obtain ⟨hcleared, d, hd, hold, hagrees⟩ := haccepted
  rw [h.document] at hd
  exact ⟨h.cleared nin role.label hcleared, d, hd, hold.of_tighter hr hr.parentGap, hagrees⟩

theorem GuardianAccepted.of_stricter (hr : r.Tighter tight) (h : Stricter answers strict)
    {nin : Nin} {label : String} (haccepted : GuardianAccepted strict tight a born nin label) :
    GuardianAccepted answers r a born nin label := by
  obtain ⟨hcleared, hcousin | ⟨d, hd, hvouches⟩⟩ := haccepted
  · exact ⟨h.cleared nin label hcleared, .inl hcousin⟩
  · rw [h.document] at hd
    exact ⟨h.cleared nin label hcleared, .inr ⟨d, hd, hvouches.of_tighter hr⟩⟩

theorem ParentsAccepted.of_stricter (hr : r.Tighter tight) (h : Stricter answers strict)
    (hanswered : Answered answers) (haccepted : ParentsAccepted strict tight a born) :
    ParentsAccepted answers r a born := by
  rcases haccepted with ⟨father, hfather, haccepted⟩ | ⟨mother, hmother, haccepted, -⟩
  · exact .inl ⟨father, hfather, haccepted.of_stricter hr h⟩
  · -- The father may have vouched before, and then the mother was not asked.
    by_cases hbefore : ∃ father, a.fatherNin = some father ∧
        ParentAccepted answers r a born .father father
    · exact .inl hbefore
    · refine .inr ⟨mother, hmother, haccepted.of_stricter hr h, fun father hfather => ?_⟩
      exact ⟨fun hyes => hbefore ⟨father, hfather, hyes⟩, hanswered.not_lookupFails father _⟩

theorem Vouched.of_stricter (hr : r.Tighter tight) (h : Stricter answers strict)
    (hanswered : Answered answers) (hvouched : Vouched strict tight a born) :
    Vouched answers r a born := by
  unfold Vouched at hvouched ⊢
  split
  · next hparent =>
    rw [if_pos hparent] at hvouched
    exact hvouched.of_stricter hr h hanswered
  · next hparent =>
    rw [if_neg hparent] at hvouched
    obtain ⟨nin, label, hnin, hlabel, haccepted⟩ := hvouched
    exact ⟨nin, label, hnin, hlabel, haccepted.of_stricter hr h⟩

/-- **No applicant becomes eligible** with stricter answers and tighter rules. -/
theorem Eligible.of_stricter (hr : r.Tighter tight) (h : Stricter answers strict)
    (hanswered : Answered answers)
    (heligible : ((evaluateApplicant tight a).resultWith strict).Eligible) :
    ((evaluateApplicant r a).resultWith answers).Eligible := by
  obtain ⟨hclaim, born, hborn, hvouched⟩ := evaluateApplicant_eligible_iff.mp heligible
  have hborn' : a.dateOfBirth.bind r.date? = some born := by
    rw [← hborn, funext hr.date?]
  exact evaluateApplicant_eligible_iff.mpr
    ⟨hclaim, born, hborn', hvouched.of_stricter hr h hanswered⟩

/-! ## Registrations -/

/-- Whether a registration is eligible is decided by its form, if it can be fetched. -/
theorem evaluate_eligible_iff {id : RegistrationId} :
    ((evaluate r id).resultWith answers).Eligible
      ↔ ∃ fields, answers (.fields id FormField.names) = .ok fields ∧
        ((evaluateApplicant r (.ofFields id fields)).resultWith answers).Eligible := by
  unfold evaluate assess fetchApplicant
  simp only [Inquiry.resultWith_bind, Inquiry.resultWith_fields]
  cases answers (.fields id FormField.names) with
  | error e => simp [Except.map]
  | ok fields =>
    simp only [Inquiry.resultWith_pure, Inquiry.resultWith_bind, Except.ok.injEq, exists_eq_left']
    cases (evaluateApplicant r (.ofFields id fields)).resultWith answers <;> simp [Except.map]

/--
**No registration becomes eligible** by tightening the rules: not with greater age gaps, not when
the lineage of siblings, uncles and aunts decides, and not when more numbers are overused.
-/
theorem eligible_of_tightened (answers strict : (c : Call) → c.Answer) (r tight : Rules)
    (id : RegistrationId) (hrules : r.Tighter tight)
    (hform : strict (.fields id FormField.names) = answers (.fields id FormField.names))
    (hregistry : ∀ nin, strict (.document nin) = answers (.document nin))
    (hanswered : Answered answers)
    (hguard : ∀ nin role, ∃ b, answers (.isOverused nin role) = .ok b)
    (hoverused : ∀ nin role, answers (.isOverused nin role) = .ok true →
      strict (.isOverused nin role) = .ok true)
    (heligible : ∃ v, (evaluate tight id).resultWith strict = .ok v ∧ v.eligible = true) :
    ∃ v, (evaluate r id).resultWith answers = .ok v ∧ v.eligible = true := by
  obtain ⟨fields, hfields, happlicant⟩ := evaluate_eligible_iff.mp heligible
  rw [hform] at hfields
  have hstricter : Stricter answers strict := .of_overused hregistry hguard hoverused
  exact evaluate_eligible_iff.mpr
    ⟨fields, hfields, Eligible.of_stricter hrules hstricter hanswered happlicant⟩

/-- A form on which both parents are cited, whose numbers are "F" and "M". -/
def bothParentsForm : Table String String :=
  [("applicantCitizenshipType", "[\x7b\"value\":\"birth\"\x7d]"), ("dateOfBirth", "2000/01/01"),
   ("applicantTribe", "[\x7b\"value\":\"T\"\x7d]"), ("applicantClan", "[\x7b\"value\":\"C\"\x7d]"),
   ("fatherNIN", "F"), ("motherNIN", "M")]

/-- What the registry says about a parent on this form. -/
def parentOnForm : Document where
  fields := [("dateOfBirth", .str "1970/01/01"), ("tribe", .str "[\x7b\"value\":\"T\"\x7d]"),
    ("clan", .str "[\x7b\"value\":\"C\"\x7d]")]

/-- The answers about a registration with this form while some numbers are overused. -/
def bothParentsAnswers (overused : List Nin) (c : Call) : c.Answer :=
  (Memory.answer c (.fresh [(⟨"A"⟩, bothParentsForm)]
    [(⟨"F"⟩, parentOnForm), (⟨"M"⟩, parentOnForm)] (.listed overused))).1

/-- Rules with greater age gaps, under which the lineage of all guardians decides. -/
def tightRules : Rules := ⟨Rules.standard.datePattern, 18, 40, true⟩

/-- The mother vouches while the father is overused; it is he who vouches under the laxer rules. -/
theorem eligible_of_tightened_both_parents :
    (evaluate tightRules ⟨"A"⟩).resultWith (bothParentsAnswers [⟨"F"⟩])
        = .ok (.pass "MOTHER tribe and clan match the applicant") ∧
      ∃ v, (evaluate .standard ⟨"A"⟩).resultWith (bothParentsAnswers []) = .ok v ∧
        v.eligible = true := by
  have hmother : (evaluate tightRules ⟨"A"⟩).resultWith (bothParentsAnswers [⟨"F"⟩])
      = .ok (.pass "MOTHER tribe and clan match the applicant") :=
    Finding.eq_ok_iff.mpr (by decide +kernel)
  have hrules : Rules.standard.Tighter tightRules := ⟨rfl, by decide, by decide, by decide⟩
  have hoverused : ∀ nin role, bothParentsAnswers [] (.isOverused nin role) = .ok true →
      bothParentsAnswers [⟨"F"⟩] (.isOverused nin role) = .ok true := by
    intro nin role h
    have hnone : decide (nin ∈ ([] : List Nin)) = true := Except.ok.inj h
    simp at hnone
  refine ⟨hmother, eligible_of_tightened (bothParentsAnswers []) (bothParentsAnswers [⟨"F"⟩])
    .standard tightRules ⟨"A"⟩ hrules rfl ?_ ?_ ?_ hoverused ⟨_, hmother, rfl⟩⟩
  · exact fun _ => rfl
  · exact fun _ => ⟨_, rfl⟩
  · exact fun _ _ => ⟨_, rfl⟩

end Birthright
