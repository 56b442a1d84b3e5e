import Birthright.Proofs.Eligibility.Acceptance

/-!
# What an evaluation asks

An evaluation only asks and changes nothing, whatever comes back. Where it makes an applicant
eligible, the number that it checked last is one that the application cites and was not overused:
the applicant is eligible on the strength of this number.

* `evaluateApplicant_ensures` — the evaluation of an applicant
* `assess_ensures` — the evaluation of a registration, with the form that was fetched
-/

namespace Birthright

open Calendar (Date)

/-- What an exchange checks: a number that is not overused, or none if it is or the guard fails. -/
def Exchange.check? : Exchange → Option (Option Nin)
  | ⟨.isOverused nin _, .ok false⟩ => some (some nin)
  | ⟨.isOverused _ _, _⟩ => some none
  | _ => none

/-- The number on whose strength an applicant can be eligible: that which was checked last. -/
def vouching? (t : List Exchange) : Option Nin := (t.filterMap Exchange.check?).getLast?.join

theorem vouching?_append_of_check {t : List Exchange} {e : Exchange} {n : Option Nin}
    (h : e.check? = some n) : vouching? (t ++ [e]) = n := by
  simp [vouching?, List.filterMap_append, h]

theorem vouching?_append_of_not_check {t : List Exchange} {e : Exchange} (h : e.check? = none) :
    vouching? (t ++ [e]) = vouching? t := by
  simp [vouching?, List.filterMap_append, h]

/-! ## Questions -/

/-- All that was done was to ask. -/
def OnlyAsked (t : List Exchange) : Prop := ∀ e ∈ t, e.call.isQuestion = true

/-- A question is asked before anything else is done. -/
def Asking (past : List Exchange) (c : Call) : Prop := c.isQuestion = true ∧ OnlyAsked past

/-- Only questions were asked, beginning with those of the past. -/
def AskedSince (past t : List Exchange) : Prop := past <+: t ∧ OnlyAsked t

theorem OnlyAsked.append {t : List Exchange} {e : Exchange} (h : OnlyAsked t)
    (he : e.call.isQuestion = true) : OnlyAsked (t ++ [e]) := by
  intro e' he'
  rcases List.mem_append.mp he' with hold | hnew
  · exact h e' hold
  · rw [List.mem_singleton.mp hnew]
    exact he

theorem AskedSince.refl {t : List Exchange} (h : OnlyAsked t) : AskedSince t t :=
  ⟨List.prefix_refl t, h⟩

theorem AskedSince.append {past t : List Exchange} {e : Exchange} (h : AskedSince past t)
    (he : e.call.isQuestion = true) : AskedSince past (t ++ [e]) :=
  ⟨h.1.trans (List.prefix_append t [e]), h.2.append he⟩

variable {r : Rules} {a : Applicant} {born : Date} {past : List Exchange}

/-! ## Parents and guardians -/

/-- After a number was cleared, a document may be asked for: the number stays the one checked last. -/
theorem ensures_document {nin doc : Nin} {f : Except LookupFailure (Option Document) → Inquiry Finding}
    {t : List Exchange} (hasked : AskedSince past t) (hvouching : vouching? t = some nin)
    (hf : ∀ answer t', AskedSince past t' → vouching? t' = some nin →
      (f answer).Ensures Asking
        (fun t f => AskedSince past t ∧ (f.Eligible → vouching? t = some nin)) t') :
    (Inquiry.document doc >>= f).Ensures Asking
      (fun t f => AskedSince past t ∧ (f.Eligible → vouching? t = some nin)) t := by
  refine Inquiry.ensures_ask_bind.mpr ⟨⟨rfl, hasked.2⟩, fun answer => ?_⟩
  refine hf answer _ (hasked.append rfl) ?_
  rw [vouching?_append_of_not_check rfl]
  exact hvouching

theorem checkParent_ensures {role : ParentRole} {nin : Nin} (hpast : OnlyAsked past) :
    (checkParent r a born role nin).Ensures Asking
      (fun t f => AskedSince past t ∧ (f.Eligible → vouching? t = some nin)) past := by
  unfold checkParent
  refine Inquiry.ensures_ask_bind.mpr ⟨⟨rfl, hpast⟩, fun answer => ?_⟩
  have hasked : AskedSince past (past ++ [⟨.isOverused nin role.label, answer⟩]) :=
    (AskedSince.refl hpast).append rfl
  split
  · simp [hasked]
  · simp [hasked]
  · refine ensures_document hasked (vouching?_append_of_check rfl) fun answer t ht hvouching => ?_
    split <;> simp [ht, hvouching]

theorem checkGuardian_ensures {nin : Nin} {label : String} (hpast : OnlyAsked past) :
    (checkGuardian r a born nin label).Ensures Asking
      (fun t f => AskedSince past t ∧ (f.Eligible → vouching? t = some nin)) past := by
  unfold checkGuardian
  refine Inquiry.ensures_ask_bind.mpr ⟨⟨rfl, hpast⟩, fun answer => ?_⟩
  have hasked : AskedSince past (past ++ [⟨.isOverused nin label, answer⟩]) :=
    (AskedSince.refl hpast).append rfl
  split
  · simp [hasked]
  · simp [hasked]
  · have hvouching := vouching?_append_of_check (t := past)
      (e := ⟨.isOverused nin label, .ok false⟩) rfl
    split
    · simp [hasked, hvouching]
    · refine ensures_document hasked hvouching fun answer t ht hvouching => ?_
      split <;> simp [ht, hvouching]

/-- **The parents are checked one after the other**: who vouches is among them. -/
theorem tryParents_ensures {parents : List (ParentRole × Nin)} {last : Option Verdict}
    (hlast : ∀ v ∈ last, v.eligible = false) (hpast : OnlyAsked past) :
    (tryParents r a born parents last).Ensures Asking
      (fun t f => AskedSince past t ∧
        (f.Eligible → ∃ role nin, (role, nin) ∈ parents ∧ vouching? t = some nin)) past := by
  induction parents generalizing last past with
  | nil =>
    refine Inquiry.ensures_pure.mpr ⟨AskedSince.refl hpast, fun h => ?_⟩
    cases last with
    | none => simp at h
    | some v => simp [hlast v rfl] at h
  | cons parent others ih =>
    obtain ⟨role, nin⟩ := parent
    rw [tryParents, Inquiry.ensures_bind]
    refine (checkParent_ensures hpast).mono (fun _ _ h => h) ?_
    rintro t f ⟨hasked, hvouching⟩
    rw [Inquiry.ensures_bind, Inquiry.ensures_noted]
    split
    · simp [hasked]
    · next v hv =>
      have heligible : f.Eligible ↔ v.eligible = true := by
        rw [← contain_eligible_iff, hv, Finding.eligible_ok]
      split
      · next hyes =>
        exact ⟨hasked, fun _ => ⟨role, nin, List.mem_cons_self, hvouching (heligible.mpr hyes)⟩⟩
      · next hno =>
        -- The next parents are checked after this one, so theirs is the last check.
        rw [Inquiry.ensures_notes_bind]
        refine (ih ?_ hasked.2).mono (fun _ _ h => h) ?_
        · simpa using hno
        · rintro t' f' ⟨hasked', hvouching'⟩
          refine ⟨⟨hasked.1.trans hasked'.1, hasked'.2⟩, fun h => ?_⟩
          obtain ⟨role', nin', hmem, hn⟩ := hvouching' h
          exact ⟨role', nin', List.mem_cons_of_mem _ hmem, hn⟩

/-! ## The whole evaluation -/

/-- The number that was checked last is one of those that the applicant cites. -/
def VouchedByCitation (a : Applicant) (t : List Exchange) : Prop :=
  ∃ nin role, (nin, role) ∈ a.citations ∧ vouching? t = some nin

theorem evaluateParents_ensures (hparent : a.hasParent = true) (hpast : OnlyAsked past) :
    (evaluateParents r a born).Ensures Asking
      (fun t f => AskedSince past t ∧ (f.Eligible → VouchedByCitation a t)) past := by
  refine (tryParents_ensures (by simp) hpast).mono (fun _ _ h => h) ?_
  rintro t f ⟨hasked, hvouching⟩
  refine ⟨hasked, fun h => ?_⟩
  obtain ⟨role, nin, hmem, hn⟩ := hvouching h
  refine ⟨nin, role.label, ?_, hn⟩
  rw [Applicant.citations, if_pos hparent]
  exact List.mem_map.mpr ⟨(role, nin), hmem, rfl⟩

theorem evaluateGuardian_ensures (hparent : a.hasParent = false) (hpast : OnlyAsked past) :
    (evaluateGuardian r a born).Ensures Asking
      (fun t f => AskedSince past t ∧ (f.Eligible → VouchedByCitation a t)) past := by
  unfold evaluateGuardian
  split
  · simp [AskedSince.refl hpast]
  · simp [AskedSince.refl hpast]
  · next nin label hnin hlabel =>
    rw [Inquiry.ensures_notes_bind, Inquiry.ensures_bind]
    refine (checkGuardian_ensures hpast).mono (fun _ _ h => h) ?_
    rintro t f ⟨hasked, hvouching⟩
    rw [Inquiry.ensures_noted, contain_eligible_iff]
    refine ⟨hasked, fun h => ⟨nin, label, ?_, hvouching h⟩⟩
    simp [Applicant.citations, hparent, hnin, hlabel]

/-- **An evaluation only asks**, and who is eligible is so on the strength of a cited number. -/
theorem evaluateApplicant_ensures (hpast : OnlyAsked past) :
    (evaluateApplicant r a).Ensures Asking
      (fun t f => AskedSince past t ∧ (f.Eligible → VouchedByCitation a t)) past := by
  unfold evaluateApplicant
  split
  · simp [AskedSince.refl hpast]
  · split
    · simp [AskedSince.refl hpast]
    · next born _ =>
      simp only [Inquiry.ensures_notes_bind]
      split
      · next hparent =>
        rw [Inquiry.ensures_bind]
        refine (evaluateParents_ensures hparent hpast).mono (fun _ _ h => h) ?_
        rintro t f hf
        cases f <;> simpa using hf
      · next hparent =>
        rw [Inquiry.ensures_bind]
        refine (evaluateGuardian_ensures (by simpa using hparent) hpast).mono (fun _ _ h => h) ?_
        rintro t f hf
        cases f <;> simpa using hf

/-- **The evaluation of a registration** judges the form that was fetched. -/
theorem assess_ensures (id : RegistrationId) :
    (assess r id).Ensures Asking
      (fun t x => OnlyAsked t ∧ ∀ a v, x = .ok (a, v) →
        ∃ fields, ⟨.fields id FormField.names, .ok fields⟩ ∈ t ∧ a = .ofFields id fields ∧
          (v.eligible = true → VouchedByCitation a t)) [] := by
  have hnone : OnlyAsked [] := fun e he => nomatch he
  unfold assess fetchApplicant
  rw [Inquiry.ensures_bind, Inquiry.ensures_notes_bind]
  refine Inquiry.ensures_ask_bind.mpr ⟨⟨rfl, hnone⟩, fun answer => ?_⟩
  have hasked : OnlyAsked ([] ++ [⟨.fields id FormField.names, answer⟩]) := hnone.append rfl
  cases answer with
  | error e => exact ⟨hasked, fun a v h => nomatch h⟩
  | ok fields =>
    rw [Inquiry.ensures_pure, Inquiry.ensures_bind]
    refine (evaluateApplicant_ensures hasked).mono (fun _ _ h => h) ?_
    rintro t f ⟨⟨hbegins, honly⟩, hvouched⟩
    cases f with
    | error e => exact ⟨honly, fun a v h => nomatch h⟩
    | ok v =>
      refine ⟨honly, ?_⟩
      rintro _ _ ⟨⟩
      refine ⟨fields, hbegins.subset (by simp), rfl, fun h => hvouched ?_⟩
      rwa [Finding.eligible_ok]

end Birthright
