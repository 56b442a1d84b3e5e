import Mathlib.Data.List.Nodup
import Birthright.Proofs.Eligibility.Course
import Birthright.Proofs.Eligibility.Strictness

/-!
# Verdicts that are given again

An applicant was eligible, and is evaluated again with stricter answers. The verdict is the same
exactly if the number on whose strength it was given is still cleared: who was checked before that
number did not vouch and still does not, and a verdict in favour of the applicant names the person
that it rests on.

* `tryParents_again`, `evaluateGuardian_again` — the parents and the guardian
* `evaluateApplicant_again` — the whole evaluation
-/

namespace Birthright

open Calendar (Date)

variable {answers strict : (c : Call) → c.Answer} {r : Rules} {a : Applicant} {born : Date}

/-! ## What a verdict rests on -/

/-- A check that comes after others and clears a number is the one that counts. -/
theorem vouching?_append_of_some {t u : List Exchange} {n : Nin} (h : vouching? u = some n) :
    vouching? (t ++ u) = some n := by
  unfold vouching? at h ⊢
  rw [List.filterMap_append, List.getLast?_append]
  cases hlast : (u.filterMap Exchange.check?).getLast? with
  | none => simp [hlast] at h
  | some x =>
    rw [hlast] at h
    exact h

/-- The verdict on an applicant for whom a parent vouches. -/
def ParentRole.accepted (role : ParentRole) : Verdict :=
  .pass (role.label ++ " tribe and clan match the applicant")

theorem accepted_injective : Function.Injective ParentRole.accepted := by
  intro role role' h
  cases role <;> cases role' <;> first | rfl | exact absurd h (by decide)

theorem judgeParent_eq_accepted {role : ParentRole} {d : Document}
    (h : (judgeParent r a born role d).2.Eligible) :
    (judgeParent r a born role d).2 = .ok role.accepted := by
  unfold judgeParent at h ⊢
  split at h
  · simp at h
  · split at h
    · simp at h
    · dsimp only at h ⊢
      split at h
      · rfl
      · simp at h

theorem checkParent_eq_accepted {role : ParentRole} {nin : Nin}
    (h : ((checkParent r a born role nin).resultWith answers).Eligible) :
    (checkParent r a born role nin).resultWith answers = .ok role.accepted := by
  unfold checkParent at h ⊢
  rw [Inquiry.resultWith_bind, Inquiry.resultWith_isOverused] at h ⊢
  split at h
  · simp at h
  · simp at h
  · rw [Inquiry.resultWith_bind, Inquiry.resultWith_document] at h ⊢
    split at h
    · simp at h
    · simp at h
    · rw [Inquiry.resultWith_noted] at h ⊢
      exact judgeParent_eq_accepted h

/-- Behind its boundary the check of a parent who does not vouch is a verdict against the applicant. -/
theorem contain_checkParent_of_not_eligible (hanswered : Answered answers) {role : ParentRole}
    {nin : Nin} (hno : ¬((checkParent r a born role nin).resultWith answers).Eligible) :
    ∃ u, u.eligible = false ∧
      (contain a role.label ((checkParent r a born role nin).resultWith answers)).2 = .ok u := by
  obtain ⟨u, hu⟩ : ∃ u,
      (contain a role.label ((checkParent r a born role nin).resultWith answers)).2 = .ok u :=
    checkParent_answered hanswered role nin
  refine ⟨u, ?_, hu⟩
  rw [← contain_eligible_iff, hu, Finding.eligible_ok] at hno
  exact Bool.eq_false_iff.mpr hno

/-- A parent who does not vouch is passed over. -/
theorem tryParents_cons_of_not_eligible {role : ParentRole} {nin : Nin} {u : Verdict}
    (hno : u.eligible = false)
    (hu : (contain a role.label ((checkParent r a born role nin).resultWith answers)).2 = .ok u)
    (others : List (ParentRole × Nin)) (last : Option Verdict) :
    (tryParents r a born ((role, nin) :: others) last).resultWith answers
      = (tryParents r a born others (some u)).resultWith answers := by
  rw [tryParents, Inquiry.resultWith_bind, Inquiry.resultWith_bind, Inquiry.resultWith_noted, hu]
  simp [hno]

/-- A parent who vouches decides. -/
theorem tryParents_cons_of_eligible {role : ParentRole} {nin : Nin}
    (h : ((checkParent r a born role nin).resultWith answers).Eligible)
    (others : List (ParentRole × Nin)) (last : Option Verdict) :
    (tryParents r a born ((role, nin) :: others) last).resultWith answers = .ok role.accepted := by
  rw [tryParents, Inquiry.resultWith_bind, checkParent_eq_accepted h]
  rfl

/-- Who vouches among the parents is named by the verdict, and the number is cleared. -/
theorem tryParents_eq_accepted (hanswered : Answered answers) {parents : List (ParentRole × Nin)}
    {last : Option Verdict} (hlast : ∀ v ∈ last, v.eligible = false)
    (h : ((tryParents r a born parents last).resultWith answers).Eligible) :
    ∃ role nin, (role, nin) ∈ parents ∧ answers (.isOverused nin role.label) = .ok false ∧
      (tryParents r a born parents last).resultWith answers = .ok role.accepted := by
  induction parents generalizing last with
  | nil =>
    cases last with
    | none => simp [tryParents] at h
    | some v => simp [tryParents, hlast v rfl] at h
  | cons parent others ih =>
    obtain ⟨role, nin⟩ := parent
    by_cases hcheck : ((checkParent r a born role nin).resultWith answers).Eligible
    · exact ⟨role, nin, List.mem_cons_self, (checkParent_eligible_iff.mp hcheck).1,
        tryParents_cons_of_eligible hcheck others last⟩
    · obtain ⟨u, hno, hu⟩ := contain_checkParent_of_not_eligible hanswered hcheck
      rw [tryParents_cons_of_not_eligible hno hu] at h ⊢
      obtain ⟨role', nin', hmem, hcleared, hresult⟩ := ih (by simpa using hno) h
      exact ⟨role', nin', List.mem_cons_of_mem _ hmem, hcleared, hresult⟩

/-- A verdict that names a parent says that this parent's number is cleared. -/
theorem cleared_of_tryParents_eq (hanswered : Answered answers)
    {parents : List (ParentRole × Nin)} (hroles : (parents.map Prod.fst).Nodup)
    {last : Option Verdict} (hlast : ∀ v ∈ last, v.eligible = false) {role : ParentRole} {nin : Nin}
    (hmem : (role, nin) ∈ parents)
    (h : (tryParents r a born parents last).resultWith answers = .ok role.accepted) :
    answers (.isOverused nin role.label) = .ok false := by
  obtain ⟨role', nin', hmem', hcleared, hresult⟩ :=
    tryParents_eq_accepted hanswered hlast ⟨_, h, rfl⟩
  rw [h] at hresult
  have hrole : role = role' := accepted_injective (Except.ok.inj hresult)
  have hsame : (role, nin) = (role', nin') := List.inj_on_of_nodup_map hroles hmem hmem' hrole
  cases hsame
  exact hcleared

/-- The check of a number that is still cleared comes to the same. -/
theorem checkParent_eq_of_cleared (h : Stricter answers strict) {role : ParentRole} {nin : Nin}
    (hcleared : strict (.isOverused nin role.label) = .ok false) :
    (checkParent r a born role nin).resultWith strict
      = (checkParent r a born role nin).resultWith answers := by
  unfold checkParent
  rw [Inquiry.resultWith_bind, Inquiry.resultWith_bind, Inquiry.resultWith_isOverused,
    Inquiry.resultWith_isOverused, hcleared, h.cleared nin role.label hcleared]
  simp only [Inquiry.resultWith_bind, Inquiry.resultWith_document, h.document]
  split <;> simp

theorem checkGuardian_eq_of_cleared (h : Stricter answers strict) {nin : Nin} {label : String}
    (hcleared : strict (.isOverused nin label) = .ok false) :
    (checkGuardian r a born nin label).resultWith strict
      = (checkGuardian r a born nin label).resultWith answers := by
  unfold checkGuardian
  rw [Inquiry.resultWith_bind, Inquiry.resultWith_bind, Inquiry.resultWith_isOverused,
    Inquiry.resultWith_isOverused, hcleared, h.cleared nin label hcleared]
  dsimp only
  split
  · simp
  · simp only [Inquiry.resultWith_bind, Inquiry.resultWith_document, h.document]
    split <;> simp

theorem vouching?_of_checkParent {role : ParentRole} {nin : Nin} {t : List Exchange} {f : Finding}
    (h : (checkParent r a born role nin).Yields t f) (heligible : f.Eligible) :
    vouching? t = some nin := by
  have hnone : OnlyAsked [] := fun e he => nomatch he
  exact ((checkParent_ensures hnone).of_yields h).2 heligible

theorem vouching?_of_checkGuardian {nin : Nin} {label : String} {t : List Exchange} {f : Finding}
    (h : (checkGuardian r a born nin label).Yields t f) (heligible : f.Eligible) :
    vouching? t = some nin := by
  have hnone : OnlyAsked [] := fun e he => nomatch he
  exact ((checkGuardian_ensures hnone).of_yields h).2 heligible

/--
**The parents give the same verdict again** exactly if the number that was checked last is still
cleared. Who was checked before did not vouch, and still does not.
-/
theorem tryParents_again (h : Stricter answers strict) (hanswered : Answered answers)
    {parents : List (ParentRole × Nin)} (hroles : (parents.map Prod.fst).Nodup)
    {last last' : Option Verdict} (hlast : ∀ v ∈ last, v.eligible = false)
    (hlast' : ∀ v ∈ last', v.eligible = false) {t : List Exchange} {v : Verdict}
    (hyields : (tryParents r a born parents last).Yields t (.ok v))
    (htrue : ∀ e ∈ t, e.answer = answers e.call) (hyes : v.eligible = true) :
    ∃ role nin, (role, nin) ∈ parents ∧ vouching? t = some nin ∧
      ((tryParents r a born parents last').resultWith strict = .ok v
        ↔ strict (.isOverused nin role.label) = .ok false) := by
  induction parents generalizing last last' t with
  | nil =>
    -- Without a parent who vouches the last verdict is against the applicant.
    rw [tryParents, Inquiry.yields_pure] at hyields
    have hv := Except.ok.inj hyields.2
    cases last with
    | none =>
      rw [hv] at hyes
      cases hyes
    | some u =>
      rw [hv, Option.getD_some, hlast u rfl] at hyes
      cases hyes
  | cons parent others ih =>
    obtain ⟨role, nin⟩ := parent
    rw [tryParents] at hyields
    obtain ⟨t₁, f, t₂, rfl, hcheck, hrest⟩ := hyields.of_bind
    have hf : (checkParent r a born role nin).resultWith answers = f :=
      Inquiry.resultWith_of_yields hcheck fun e he => htrue e (List.mem_append_left _ he)
    rw [Inquiry.yields_noted_bind] at hrest
    by_cases heligible : f.Eligible
    · -- This parent vouches, and nobody is asked after that.
      have hvouching := vouching?_of_checkParent hcheck heligible
      rw [← hf] at heligible
      have haccepted := checkParent_eq_accepted heligible
      rw [← hf, haccepted] at hrest
      obtain ⟨rfl, hv⟩ := Inquiry.yields_pure.mp hrest
      cases hv
      rw [List.append_nil]
      refine ⟨role, nin, List.mem_cons_self, hvouching, fun hagain => ?_, fun hcleared => ?_⟩
      · exact cleared_of_tryParents_eq (hanswered.of_stricter h) hroles hlast' List.mem_cons_self
          hagain
      · rw [← checkParent_eq_of_cleared h hcleared] at heligible
        exact tryParents_cons_of_eligible heligible others last'
    · -- This parent does not vouch, with stricter answers no more than before.
      rw [← hf] at heligible
      have hstill : ¬((checkParent r a born role nin).resultWith strict).Eligible := by
        intro hagain
        have hbefore := (checkParent_eligible_iff.mp hagain).of_stricter (.refl r) h
        exact heligible (checkParent_eligible_iff.mpr hbefore)
      obtain ⟨u, hno, hu⟩ := contain_checkParent_of_not_eligible hanswered heligible
      obtain ⟨u', hno', hu'⟩ :=
        contain_checkParent_of_not_eligible (hanswered.of_stricter h) hstill
      rw [← hf, hu] at hrest
      simp only [hno, Bool.false_eq_true, if_false, Inquiry.yields_notes_bind] at hrest
      have hlast : ∀ v ∈ some u, v.eligible = false := by simpa using hno
      have hlast' : ∀ v ∈ some u', v.eligible = false := by simpa using hno'
      obtain ⟨role', nin', hmem, hvouching, hagain⟩ :=
        ih (List.nodup_cons.mp hroles).2 hlast hlast' hrest
          fun e he => htrue e (List.mem_append_right _ he)
      refine ⟨role', nin', List.mem_cons_of_mem _ hmem, vouching?_append_of_some hvouching, ?_⟩
      rw [tryParents_cons_of_not_eligible hno' hu']
      exact hagain

/-- **The guardian gives the same verdict again** exactly if the number is still cleared. -/
theorem evaluateGuardian_again (h : Stricter answers strict) {t : List Exchange} {v : Verdict}
    (hyields : (evaluateGuardian r a born).Yields t (.ok v))
    (htrue : ∀ e ∈ t, e.answer = answers e.call) (hyes : v.eligible = true) :
    ∃ nin label, a.guardianNin = some nin ∧ a.relationshipLabel? = some label ∧
      vouching? t = some nin ∧ ((evaluateGuardian r a born).resultWith strict = .ok v
        ↔ strict (.isOverused nin label) = .ok false) := by
  have hresult := Inquiry.resultWith_of_yields hyields htrue
  have haccepted := evaluateGuardian_eligible_iff.mp ⟨v, hresult, hyes⟩
  obtain ⟨nin, label, hnin, hlabel, -⟩ := haccepted
  refine ⟨nin, label, hnin, hlabel, ?_, ?_, ?_⟩
  · unfold evaluateGuardian at hyields
    simp only [hnin, hlabel, Inquiry.yields_notes_bind] at hyields
    obtain ⟨t₁, f, t₂, rfl, hcheck, hrest⟩ := hyields.of_bind
    obtain ⟨rfl, hv⟩ := Inquiry.yields_noted.mp hrest
    have hcontained : (contain a "GUARDIAN" f).2.Eligible := ⟨v, hv.symm, hyes⟩
    rw [List.append_nil]
    exact vouching?_of_checkGuardian hcheck (contain_eligible_iff.mp hcontained)
  · intro hagain
    obtain ⟨nin', label', hnin', hlabel', haccepted⟩ :=
      evaluateGuardian_eligible_iff.mp ⟨v, hagain, hyes⟩
    rw [hnin] at hnin'
    rw [hlabel] at hlabel'
    cases hnin'
    cases hlabel'
    exact haccepted.1
  · intro hcleared
    rw [← hresult]
    unfold evaluateGuardian
    simp only [hnin, hlabel, Inquiry.resultWith_bind, Inquiry.resultWith_noted,
      checkGuardian_eq_of_cleared h hcleared]

theorem Applicant.roles_nodup (a : Applicant) : (a.parents.map Prod.fst).Nodup := by
  unfold parents
  cases a.fatherNin <;> cases a.motherNin <;> simp

/--
**An applicant gets the same verdict again** exactly if the number on whose strength the applicant
was eligible is still cleared.
-/
theorem evaluateApplicant_again (h : Stricter answers strict) (hanswered : Answered answers)
    {t : List Exchange} {v : Verdict} (hyields : (evaluateApplicant r a).Yields t (.ok v))
    (htrue : ∀ e ∈ t, e.answer = answers e.call) (hyes : v.eligible = true) :
    ∃ nin role, vouching? t = some nin ∧ ((evaluateApplicant r a).resultWith strict = .ok v
      ↔ strict (.isOverused nin role) = .ok false) := by
  have hresult := Inquiry.resultWith_of_yields hyields htrue
  obtain ⟨hclaim, born, hborn, -⟩ := evaluateApplicant_eligible_iff.mp ⟨v, hresult, hyes⟩
  rw [resultWith_evaluateApplicant hclaim hborn]
  unfold evaluateApplicant at hyields
  rw [if_neg (not_not_intro hclaim), hborn] at hyields
  simp only [Inquiry.yields_notes_bind] at hyields
  split
  · next hparent =>
    rw [if_pos hparent] at hyields
    have hnone : ∀ v ∈ (none : Option Verdict), v.eligible = false := by simp
    obtain ⟨role, nin, -, hvouching, hagain⟩ := tryParents_again h hanswered a.roles_nodup
      hnone hnone (yields_of_reported hyields) htrue hyes
    exact ⟨nin, role.label, hvouching, hagain⟩
  · next hparent =>
    rw [if_neg hparent] at hyields
    obtain ⟨nin, label, -, -, hvouching, hagain⟩ :=
      evaluateGuardian_again h (yields_of_reported hyields) htrue hyes
    exact ⟨nin, label, hvouching, hagain⟩

end Birthright
