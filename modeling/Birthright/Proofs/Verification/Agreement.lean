import Birthright.Proofs.Eligibility.Reached
import Birthright.Proofs.Eligibility.Strictness
import Birthright.Proofs.Verification.Charges

/-!
# Checked and charged numbers

The evaluation checks numbers against the usage guard, and the service charges the numbers that the
form cites. Both decide for themselves which numbers these are and in which roles. Here it is shown
that they agree: who vouches for an applicant is charged for it, in the role that was checked.

* `Evaluating.agreement` — the numbers that are checked are the first of those that the form cites
* `Course.agreement` — a registration that passes is charged for all that were checked
* `checked_agree_with_charged` — both, for any collaborators
-/

namespace Birthright

open Calendar (Date)

/-- The number that a call charges, with the role in which it is charged. -/
def Call.charged? : Call → Option (Nin × String)
  | .cite nin role => some (nin, role)
  | _ => none

/-- An exchange finds an outcome that has passed. -/
def Exchange.findsPass : Exchange → Bool
  | ⟨.fetch _, .ok (some o)⟩ => o.isValid
  | _ => false

/-- The numbers that are charged, in the order of the calls. -/
def chargedIn (t : List Exchange) : List (Nin × String) := t.filterMap (·.call.charged?)

@[simp] theorem chargedIn_append (t u : List Exchange) :
    chargedIn (t ++ u) = chargedIn t ++ chargedIn u := List.filterMap_append

/-- The exchanges in which a reference is accepted, with its number and its role. -/
inductive Accepted (r : Rules) (a : Applicant) (born : Date) (nin : Nin) :
    String → List Exchange → Prop where
  | parent {role : ParentRole} {d : Document} (hparent : a.hasParent = true)
      (hage : r.OldEnough r.parentGap d born) (hlineage : d.AgreesWith a.tribe a.clan) :
      Accepted r a born nin role.label
        [⟨.isOverused nin role.label, .ok false⟩, ⟨.document nin, .ok (some d)⟩]
  | firstCousin {label : String} (hparent : a.hasParent = false)
      (hcousin : GuardianCheck.ofLabel? label = some .firstCousin) :
      Accepted r a born nin label [⟨.isOverused nin label, .ok false⟩]
  | guardian {label : String} {d : Document} (hparent : a.hasParent = false)
      (hvouches : d.VouchesForGuardian r a born label) :
      Accepted r a born nin label
        [⟨.isOverused nin label, .ok false⟩, ⟨.document nin, .ok (some d)⟩]

/-- The checks of an evaluation agree with what the form cites. -/
structure Agreement (r : Rules) (a : Applicant) (t : List Exchange) (f : Finding) : Prop where
  /-- The numbers that are checked are the first ones that the form cites, in the same roles. -/
  checked : checkedIn t <+: a.citations
  /-- The last of them is that of the reference that made the applicant eligible. -/
  vouched : ∀ v, f = .ok v → v.eligible = true → ∃ born before nin role u block,
    a.dateOfBirth.bind r.date? = some born ∧ checkedIn t = before ++ [(nin, role)] ∧
      t = u ++ block ∧ Accepted r a born nin role block

variable {r : Rules} {a : Applicant} {born : Date} {t : List Exchange} {f : Finding}

/-! ## Evaluations -/

/-- Who vouches is accepted as the form's parent or guardian. -/
theorem Reference.Checked.accepted {ref : Reference} {v : Verdict} (h : ref.Checked t (.ok v))
    (hyes : v.eligible = true) (hmem : ref ∈ a.references r born) :
    Accepted r a born ref.nin ref.role t := by
  rcases Applicant.mem_references hmem with ⟨hparent, role, nin, rfl⟩ | ⟨hparent, nin, label, rfl⟩
  · cases h with
    | guardFailed e => cases hyes
    | overused detail => cases hyes
    | notLookedUp h => cases h
    | unknown h detail => cases hyes
    | judged h d =>
      obtain ⟨hage, hlineage⟩ := judgeParent_eligible_iff.mp (contained_eligible_iff.mp hyes)
      exact .parent hparent hage hlineage
  · cases h with
    | guardFailed e => cases hyes
    | overused detail => cases hyes
    | notLookedUp h => exact .firstCousin hparent (by simpa [ofGuardian] using h)
    | unknown h detail => cases hyes
    | judged h d =>
      have hcousin : GuardianCheck.ofLabel? label ≠ some .firstCousin := by
        simpa [ofGuardian] using h
      have hvouches := (judgeGuardian_eligible_iff hcousin).mp (contained_eligible_iff.mp hyes)
      exact .guardian hparent hvouches

theorem Walk.agreement (hborn : a.dateOfBirth.bind r.date? = some born)
    (h : Walk (a.references r born) t f) : Agreement r a t f := by
  obtain ⟨before, ref, others, u, block, hrefs, ht, hlast, hchecked⟩ := h.reached
  constructor
  · rw [hchecked, ← Applicant.references_map, hrefs, List.append_cons before]
    simp [List.map_append]
  · rintro v rfl hyes
    have hmem : ref ∈ a.references r born := by simp [hrefs]
    refine ⟨born, before.map fun ref => (ref.nin, ref.role), ref.nin, ref.role, u, block, hborn, ?_,
      ht, hlast.accepted hyes hmem⟩
    rw [hchecked, List.map_append]
    rfl

/-- **Every evaluation** checks a beginning of what the form cites, up to who vouches. -/
theorem Evaluating.agreement (h : Evaluating r a t f) : Agreement r a t f := by
  -- Nobody vouches where nobody is checked.
  have hnobody (reason : Reason) (detail : String) :
      Agreement r a [] (.ok (.fail reason detail)) := by
    refine ⟨List.nil_prefix, ?_⟩
    rintro _ ⟨⟩ hyes
    cases hyes
  cases h with
  | otherClaim hclaim detail => exact hnobody _ detail
  | birthUnreadable hclaim hborn detail => exact hnobody _ detail
  | guardianMissing hclaim hborn hparent hnin detail => exact hnobody _ detail
  | relationshipUnreadable hclaim hborn hparent hnin hlabel detail => exact hnobody _ detail
  | walked hclaim hborn hwalk => exact hwalk.agreement hborn

/-! ## Processing -/

theorem OnlyAsked.charged (h : OnlyAsked t) : chargedIn t = [] := by
  refine h.filterMap_eq_nil fun x hx => ?_
  unfold Call.charged?
  split
  · next hcall =>
    rw [hcall] at hx
    cases hx
  · rfl

@[simp] theorem chargedIn_citing (cs : List (Nin × String)) : chargedIn (citing cs) = cs := by
  simp [chargedIn, citing, Call.charged?]

@[simp] theorem checkedIn_citing (cs : List (Nin × String)) : checkedIn (citing cs) = [] := by
  simp [checkedIn, citing, Call.checked?]

theorem Concluding.checked {o : Outcome} {x : Except ServiceFailure Unit} (h : Concluding o t x) :
    checkedIn t = [] := by
  cases h <;> rfl

theorem Concluding.charged {o : Outcome} {x : Except ServiceFailure Unit} (h : Concluding o t x) :
    chargedIn t = [] := by
  cases h <;> rfl

/-- Unless the registration had passed before, all that the form cites is charged. -/
theorem Charging.charged_of_new (h : Charging a t (.ok ()))
    (hnew : ∀ x ∈ t, x.findsPass = false) :
    chargedIn t = a.citations ∧ checkedIn t = [] := by
  cases h with
  | @passedBefore o ho =>
    have hfound : o.isValid = false := hnew _ List.mem_cons_self
    rw [hfound] at ho
    cases ho
  | @charged earlier hearlier =>
    exact ⟨chargedIn_citing a.citations, checkedIn_citing a.citations⟩

/-- A form that was evaluated was fetched, and its numbers are all that was checked. -/
theorem checkedIn_of_assess {q : Request} {v : Verdict}
    (h : (assess r q.id).Yields t (.ok (a, v))) : ∃ fields,
      ⟨.fields q.id FormField.names, .ok fields⟩ ∈ t ∧ a = .ofFields q.id fields ∧
        checkedIn t <+: a.citations := by
  generalize hx : (Except.ok (a, v) : Except EvaluationFailure (Applicant × Verdict)) = y at h
  cases assess_course h with
  | notFetched e => cases hx
  | @evaluated fields t f hevaluate =>
    cases f with
    | error e => cases hx
    | ok v =>
      cases hx
      have hagreement := (evaluateApplicant_course hevaluate).agreement
      exact ⟨fields, List.mem_cons_self, rfl, hagreement.checked⟩

/-- **A registration that passes for the first time** is charged for all that was checked. -/
theorem Course.agreement {q : Request} {o : Outcome} (h : Course r q t (.ok o))
    (hpassed : o.isValid = true) (hnew : ∀ x ∈ t, x.findsPass = false) :
    ∃ fields, ⟨.fields q.id FormField.names, .ok fields⟩ ∈ t ∧
      chargedIn t = (Applicant.ofFields q.id fields).citations ∧ checkedIn t <+: chargedIn t := by
  obtain ⟨asked, charges, u, a, v, rfl, hassess, -, hcharge, hconclude⟩ := h.of_passed hpassed
  obtain ⟨fields, hfields, rfl, hchecked⟩ := checkedIn_of_assess hassess
  obtain ⟨hcharged, hnone⟩ := hcharge.charged_of_new fun x hx =>
    hnew x (List.mem_append_right asked (List.mem_append_left u hx))
  have hall : chargedIn (asked ++ (charges ++ u)) = (Applicant.ofFields q.id fields).citations := by
    rw [chargedIn_append, chargedIn_append, (onlyAsked_of_assess hassess).charged, hcharged,
      hconclude.charged, List.nil_append, List.append_nil]
  refine ⟨fields, List.mem_append_left (charges ++ u) hfields, hall, ?_⟩
  rw [hall, checkedIn_append, checkedIn_append, hnone, hconclude.checked, List.append_nil,
    List.append_nil]
  exact hchecked

/--
**Checked and charged numbers agree**, for any collaborators. An evaluation checks a beginning of
what the form cites and ends with who vouches, and a registration that passes for the first time is
charged for exactly what the form cites, and so for all that was checked.
-/
theorem checked_agree_with_charged {σ : Type} (w : Collaborators σ) (r : Rules) (s : σ) :
    (∀ a, Agreement r a ((evaluateApplicant r a).exchanges w s)
      ((evaluateApplicant r a).run w s).result) ∧
    ∀ (q : Request) (o : Outcome), ((process r q.now q.id).run w s).result = .ok o →
      o.isValid = true →
      (∀ x ∈ (process r q.now q.id).exchanges w s, x.findsPass = false) →
      ∃ fields, ⟨.fields q.id FormField.names, .ok fields⟩ ∈ (process r q.now q.id).exchanges w s ∧
        chargedIn ((process r q.now q.id).exchanges w s)
          = (Applicant.ofFields q.id fields).citations ∧
        checkedIn ((process r q.now q.id).exchanges w s)
          <+: chargedIn ((process r q.now q.id).exchanges w s) := by
  constructor
  · intro a
    exact (evaluateApplicant_course (Inquiry.yields_run w (evaluateApplicant r a) s)).agreement
  · intro q o ho hpassed hnew
    have hcourse := course_of_run w r q s
    rw [ho] at hcourse
    exact hcourse.agreement hpassed hnew

/-- A memory of a registration that cites both parents, of whom the father is overused. -/
def overusedFather : Memory :=
  .fresh [(⟨"A"⟩, bothParentsForm)] [(⟨"F"⟩, parentOnForm), (⟨"M"⟩, parentOnForm)]
    (.ledger ⟨0, [(⟨"F"⟩, 1)]⟩)

/-- The mother vouches after the father was checked, and both are charged. -/
theorem charged_of_both_parents :
    ∃ fields, ⟨.fields ⟨"A"⟩ FormField.names, .ok fields⟩
        ∈ (process .standard (requestFor "A").now ⟨"A"⟩).exchanges Memory.collaborators
          overusedFather ∧
      chargedIn ((process .standard (requestFor "A").now ⟨"A"⟩).exchanges Memory.collaborators
        overusedFather) = (Applicant.ofFields ⟨"A"⟩ fields).citations ∧
      checkedIn ((process .standard (requestFor "A").now ⟨"A"⟩).exchanges Memory.collaborators
        overusedFather) = [(⟨"F"⟩, "FATHER"), (⟨"M"⟩, "MOTHER")] := by
  have hpassed : ((process .standard (requestFor "A").now (requestFor "A").id).run
      Memory.collaborators overusedFather).result.toOption.any Outcome.isValid = true := by
    decide +kernel
  cases hresult : ((process .standard (requestFor "A").now (requestFor "A").id).run
      Memory.collaborators overusedFather).result with
  | error e =>
    rw [hresult] at hpassed
    cases hpassed
  | ok o =>
    rw [hresult] at hpassed
    obtain ⟨-, hcharged⟩ := checked_agree_with_charged Memory.collaborators .standard overusedFather
    have hnew : ∀ x ∈ (process .standard (requestFor "A").now (requestFor "A").id).exchanges
        Memory.collaborators overusedFather, x.findsPass = false := by
      decide +kernel
    obtain ⟨fields, hfields, hcites, -⟩ := hcharged (requestFor "A") o hresult hpassed hnew
    exact ⟨fields, hfields, hcites, by decide +kernel⟩

end Birthright
