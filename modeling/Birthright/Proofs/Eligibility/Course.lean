import Birthright.Proofs.Collaborator.History
import Birthright.Proofs.Eligibility.Acceptance

/-!
# The course of an evaluation

An evaluation checks persons whom the form names as references, one after the other. Parents and
guardians are checked in the same way: the usage guard is asked about the number, then the registry
for the document if the number is cleared, and the document comes to a verdict. Here all courses
that this can take are listed with what they come to, whatever comes back from the calls.

* `checkParent_course`, `checkGuardian_course` — the check of one person
* `evaluateApplicant_course` — the evaluation of an applicant is a walk along the references
* `evaluate_course` — the evaluation of a registration, with the form that was fetched
* `Walk.of_exchange` — every exchange belongs to the check of one reference
-/

namespace Birthright

open Calendar (Date)

/-! ## References -/

/-- What a finding comes to behind the boundary of a check, if it calls for no other try. -/
def Finding.contained (branch : String) : Finding → Verdict
  | .ok v => v
  | .error e => .fail .processingError (branch ++ ": " ++ e.message)

/-- How a person is checked whom a form names as a reference. -/
structure Reference where
  nin : Nin
  /-- The role in which the usage guard is asked about the number. -/
  role : String
  /-- The name of the check where an error is reported. -/
  branch : String
  /-- Whether the registry is asked for a document. -/
  isLookedUp : Bool
  /-- What a document comes to. -/
  judge : Document → Verdict

namespace Reference

/-- A parent as a reference. -/
def ofParent (r : Rules) (a : Applicant) (born : Date) (role : ParentRole) (nin : Nin) :
    Reference where
  nin := nin
  role := role.label
  branch := role.label
  isLookedUp := true
  judge d := (judgeParent r a born role d).2.contained role.label

/-- A guardian as a reference; a first cousin is not looked up. -/
def ofGuardian (r : Rules) (a : Applicant) (born : Date) (nin : Nin) (label : String) :
    Reference where
  nin := nin
  role := label
  branch := "GUARDIAN"
  isLookedUp := GuardianCheck.ofLabel? label ≠ some .firstCousin
  judge d := (judgeGuardian r a born label d).2.contained "GUARDIAN"

/-- The exchanges of a check that asks the registry. -/
def lookingUp (ref : Reference) (found : Except LookupFailure (Option Document)) : List Exchange :=
  [⟨.isOverused ref.nin ref.role, .ok false⟩, ⟨.document ref.nin, found⟩]

/-- The exchanges of the check of a person, and what the check comes to. -/
inductive Checked (ref : Reference) : List Exchange → Finding → Prop where
  | guardFailed (e : UsageFailure) :
      Checked ref [⟨.isOverused ref.nin ref.role, .error e⟩]
        (.ok (.fail .processingError (ref.branch ++ ": " ++ e.message)))
  | overused (detail : String) :
      Checked ref [⟨.isOverused ref.nin ref.role, .ok true⟩] (.ok (.fail .ninUsageExceeded detail))
  | notLookedUp (h : ref.isLookedUp = false) :
      Checked ref [⟨.isOverused ref.nin ref.role, .ok false⟩] (.ok firstCousinVerdict)
  | registryFailed (h : ref.isLookedUp = true) (e : LookupFailure) :
      Checked ref (ref.lookingUp (.error e)) (.error (.lookup e))
  | unknown (h : ref.isLookedUp = true) (detail : String) :
      Checked ref (ref.lookingUp (.ok none)) (.ok (.fail .ninNotFound detail))
  | judged (h : ref.isLookedUp = true) (d : Document) :
      Checked ref (ref.lookingUp (.ok (some d))) (.ok (ref.judge d))

end Reference

/--
The exchanges about a person: the usage guard is asked about the number, and then the registry about
the same number, exactly if it is cleared and the person is looked up.
-/
inductive Block (nin : Nin) (role : String) (isLookedUp : Bool) : List Exchange → Prop where
  | notCleared {answer : Except UsageFailure Bool} (h : answer ≠ .ok false) :
      Block nin role isLookedUp [⟨.isOverused nin role, answer⟩]
  | notLookedUp (h : isLookedUp = false) :
      Block nin role isLookedUp [⟨.isOverused nin role, .ok false⟩]
  | lookedUp (h : isLookedUp = true) (found : Except LookupFailure (Option Document)) :
      Block nin role isLookedUp [⟨.isOverused nin role, .ok false⟩, ⟨.document nin, found⟩]

/-- The persons who are references on a form, in the order in which they are checked. -/
def Applicant.references (r : Rules) (a : Applicant) (born : Date) : List Reference :=
  if a.hasParent then a.parents.map fun (role, nin) => .ofParent r a born role nin
  else
    match a.guardianNin, a.relationshipLabel? with
    | some nin, some label => [.ofGuardian r a born nin label]
    | _, _ => []

/-- References are checked one after the other, until one vouches or the registry fails. -/
inductive Walk : List Reference → List Exchange → Finding → Prop where
  | failed {ref : Reference} {others : List Reference} {t : List Exchange} {e : EvaluationFailure}
      (h : ref.Checked t (.error e)) : Walk (ref :: others) t (.error e)
  | accepted {ref : Reference} {others : List Reference} {t : List Exchange} {v : Verdict}
      (h : ref.Checked t (.ok v)) (hyes : v.eligible = true) : Walk (ref :: others) t (.ok v)
  | exhausted {ref : Reference} {t : List Exchange} {v : Verdict} (h : ref.Checked t (.ok v))
      (hno : v.eligible = false) : Walk [ref] t (.ok v)
  | passedOver {ref : Reference} {others : List Reference} {t u : List Exchange} {v : Verdict}
      {f : Finding} (h : ref.Checked t (.ok v)) (hno : v.eligible = false)
      (hrest : Walk others u f) : Walk (ref :: others) (t ++ u) f

/-- An applicant is evaluated. -/
inductive Evaluating (r : Rules) (a : Applicant) : List Exchange → Finding → Prop where
  | otherClaim (hclaim : a.claim ≠ .byBirth) (detail : String) :
      Evaluating r a [] (.ok (.fail .notCitizenByBirth detail))
  | birthUnreadable (hclaim : a.claim = .byBirth) (hborn : a.dateOfBirth.bind r.date? = none)
      (detail : String) : Evaluating r a [] (.ok (.fail .invalidDateOfBirth detail))
  | guardianMissing {born : Date} (hclaim : a.claim = .byBirth)
      (hborn : a.dateOfBirth.bind r.date? = some born) (hparent : a.hasParent = false)
      (hnin : a.guardianNin = none) (detail : String) :
      Evaluating r a [] (.ok (.fail .guardianNinMissing detail))
  | relationshipUnreadable {born : Date} (hclaim : a.claim = .byBirth)
      (hborn : a.dateOfBirth.bind r.date? = some born) (hparent : a.hasParent = false)
      {nin : Nin} (hnin : a.guardianNin = some nin) (hlabel : a.relationshipLabel? = none)
      (detail : String) : Evaluating r a [] (.ok (.fail .guardianRelationshipUnreadable detail))
  | walked {born : Date} {t : List Exchange} {f : Finding} (hclaim : a.claim = .byBirth)
      (hborn : a.dateOfBirth.bind r.date? = some born) (h : Walk (a.references r born) t f) :
      Evaluating r a t f

/-- The fields of the form are fetched, and then the applicant is evaluated. -/
inductive Assessing (r : Rules) (id : RegistrationId) :
    List Exchange → Except EvaluationFailure (Applicant × Verdict) → Prop where
  | notFetched (e : FieldFailure) :
      Assessing r id [⟨.fields id FormField.names, .error e⟩] (.error (.fields e))
  | evaluated {fields : Table String String} {t : List Exchange} {f : Finding}
      (h : (evaluateApplicant r (.ofFields id fields)).Yields t f) :
      Assessing r id (⟨.fields id FormField.names, .ok fields⟩ :: t)
        (f.map fun v => (.ofFields id fields, v))

/-! ## References -/

variable {r : Rules} {a : Applicant} {born : Date} {t : List Exchange} {f : Finding}

namespace Applicant

/-- The father is followed by the mother, if she is cited. -/
theorem references_of_father {father : Nin} (h : a.fatherNin = some father) :
    a.references r born = .ofParent r a born .father father ::
      a.motherNin.toList.map (.ofParent r a born .mother ·) := by
  cases hmother : a.motherNin <;> simp [references, hasParent, parents, h, hmother]

/-- If no father is cited, the mother is. -/
theorem references_of_no_father (hparent : a.hasParent = true) (h : a.fatherNin = none) :
    a.references r born = a.motherNin.toList.map (.ofParent r a born .mother ·) := by
  cases hmother : a.motherNin <;> simp [references, hparent, parents, h, hmother]

/-- Whoever cites a parent has a list of parents to check. -/
theorem parents_ne_nil (hparent : a.hasParent = true) : a.parents ≠ [] := by
  unfold hasParent at hparent
  unfold parents
  cases hfather : a.fatherNin <;> cases hmother : a.motherNin <;> simp_all

theorem references_of_guardian {nin : Nin} {label : String} (hparent : a.hasParent = false)
    (hnin : a.guardianNin = some nin) (hlabel : a.relationshipLabel? = some label) :
    a.references r born = [.ofGuardian r a born nin label] := by
  simp [references, hparent, hnin, hlabel]

/-- A reference is a parent, or a guardian if there are no parents. -/
theorem mem_references {ref : Reference} (h : ref ∈ a.references r born) :
    (a.hasParent = true ∧ ∃ role nin, ref = .ofParent r a born role nin) ∨
      (a.hasParent = false ∧ ∃ nin label, ref = .ofGuardian r a born nin label) := by
  unfold references at h
  split at h
  · next hparent =>
    obtain ⟨⟨role, nin⟩, -, rfl⟩ := List.mem_map.mp h
    exact .inl ⟨hparent, role, nin, rfl⟩
  · next hparent =>
    refine .inr ⟨Bool.eq_false_iff.mpr hparent, ?_⟩
    split at h
    · next nin label _ _ => exact ⟨nin, label, List.mem_singleton.mp h⟩
    · cases h

/-- The references are those whose numbers the form cites. -/
theorem references_map : (a.references r born).map (fun ref => (ref.nin, ref.role))
    = a.citations := by
  unfold references citations
  split
  · simp [Reference.ofParent]
  · cases a.guardianNin <;> cases a.relationshipLabel? <;> rfl

end Applicant

/-! ## The check of one person -/

/-- Behind its boundary a finding that calls for no other try is a verdict. -/
theorem contain_eq_contained {branch : String} (h : ∀ e, f = .error e → e.isRetryable = false) :
    (contain a branch f).2 = .ok (f.contained branch) := by
  cases f with
  | ok v => rfl
  | error e =>
    rw [contain, if_neg (by simp [h e rfl])]
    rfl

theorem contained_eligible_iff {branch : String} :
    (f.contained branch).eligible = true ↔ f.Eligible := by
  cases f <;> simp [Finding.contained]

theorem checkParent_course {role : ParentRole} {nin : Nin}
    (h : (checkParent r a born role nin).Yields t f) :
    (Reference.ofParent r a born role nin).Checked t (contain a role.label f).2 := by
  unfold checkParent at h
  obtain ⟨answer, u, rfl, hrest⟩ := h.of_ask_bind
  split at hrest
  · next e =>
    obtain ⟨rfl, rfl⟩ := Inquiry.yields_pure.mp hrest
    exact .guardFailed e
  · obtain ⟨rfl, rfl⟩ := Inquiry.yields_noted.mp hrest
    exact .overused _
  · obtain ⟨found, w, rfl, hfound⟩ := hrest.of_ask_bind
    split at hfound
    · next e =>
      obtain ⟨rfl, rfl⟩ := Inquiry.yields_pure.mp hfound
      exact .registryFailed rfl e
    · obtain ⟨rfl, rfl⟩ := Inquiry.yields_noted.mp hfound
      exact .unknown rfl _
    · next d =>
      obtain ⟨rfl, rfl⟩ := Inquiry.yields_noted.mp hfound
      rw [contain_eq_contained fun e he => judgeParent_error he]
      exact .judged rfl d

theorem checkGuardian_course {nin : Nin} {label : String}
    (h : (checkGuardian r a born nin label).Yields t f) :
    (Reference.ofGuardian r a born nin label).Checked t (contain a "GUARDIAN" f).2 := by
  unfold checkGuardian at h
  obtain ⟨answer, u, rfl, hrest⟩ := h.of_ask_bind
  split at hrest
  · next e =>
    obtain ⟨rfl, rfl⟩ := Inquiry.yields_pure.mp hrest
    exact .guardFailed e
  · obtain ⟨rfl, rfl⟩ := Inquiry.yields_noted.mp hrest
    exact .overused _
  · split at hrest
    · next hcousin =>
      obtain ⟨rfl, rfl⟩ := Inquiry.yields_pure.mp hrest
      exact .notLookedUp (by simp [Reference.ofGuardian, hcousin])
    · next hcousin =>
      have hlookedUp : (Reference.ofGuardian r a born nin label).isLookedUp = true := by
        simpa [Reference.ofGuardian] using hcousin
      obtain ⟨found, w, rfl, hfound⟩ := hrest.of_ask_bind
      split at hfound
      · next e =>
        obtain ⟨rfl, rfl⟩ := Inquiry.yields_pure.mp hfound
        exact .registryFailed hlookedUp e
      · obtain ⟨rfl, rfl⟩ := Inquiry.yields_noted.mp hfound
        exact .unknown hlookedUp _
      · next d =>
        obtain ⟨rfl, rfl⟩ := Inquiry.yields_noted.mp hfound
        rw [contain_eq_contained fun e he => judgeGuardian_error he]
        exact .judged hlookedUp d

/-! ## The whole evaluation -/

/-- The first parent decides, or is passed over. -/
theorem tryParents_cons_course {role : ParentRole} {nin : Nin} {others : List (ParentRole × Nin)}
    {last : Option Verdict} (h : (tryParents r a born ((role, nin) :: others) last).Yields t f) :
    ∃ u x w, t = u ++ w ∧ (Reference.ofParent r a born role nin).Checked u x ∧
      ((w = [] ∧ f = x ∧ ∀ v, x = .ok v → v.eligible = true) ∨
        ∃ v, x = .ok v ∧ v.eligible = false ∧
          (tryParents r a born others (some v)).Yields w f) := by
  rw [tryParents] at h
  obtain ⟨u, found, w, rfl, hcheck, hrest⟩ := h.of_bind
  have hchecked := checkParent_course hcheck
  rw [Inquiry.yields_noted_bind] at hrest
  generalize (contain a role.label found).2 = x at hchecked hrest
  refine ⟨u, x, w, rfl, hchecked, ?_⟩
  cases x with
  | error e =>
    obtain ⟨rfl, rfl⟩ := Inquiry.yields_pure.mp hrest
    exact .inl ⟨rfl, rfl, by rintro _ ⟨⟩⟩
  | ok v =>
    cases hv : v.eligible with
    | true =>
      simp only [hv, if_true] at hrest
      obtain ⟨rfl, rfl⟩ := Inquiry.yields_pure.mp hrest
      exact .inl ⟨rfl, rfl, by rintro _ ⟨⟩; exact hv⟩
    | false =>
      simp only [hv, Bool.false_eq_true, if_false, Inquiry.yields_notes_bind] at hrest
      exact .inr ⟨v, rfl, hv, hrest⟩

/-- Who decides ends the walk. -/
theorem Walk.of_decided {ref : Reference} {others : List Reference} (h : ref.Checked t f)
    (hyes : ∀ v, f = .ok v → v.eligible = true) : Walk (ref :: others) t f := by
  cases f with
  | error e => exact .failed h
  | ok v => exact .accepted h (hyes v rfl)

/-- Who is the only reference decides. -/
theorem Walk.of_only {ref : Reference} (h : ref.Checked t f) : Walk [ref] t f := by
  cases f with
  | error e => exact .failed h
  | ok v =>
    cases hv : v.eligible with
    | true => exact .accepted h hv
    | false => exact .exhausted h hv

/-- **The parents are walked along** until one vouches or the registry fails. -/
theorem tryParents_course {parent : ParentRole × Nin} {others : List (ParentRole × Nin)}
    {last : Option Verdict} (h : (tryParents r a born (parent :: others) last).Yields t f) :
    Walk ((parent :: others).map fun p => .ofParent r a born p.1 p.2) t f := by
  induction others generalizing parent last t with
  | nil =>
    obtain ⟨u, x, w, rfl, hchecked, hrest⟩ := tryParents_cons_course h
    rcases hrest with ⟨rfl, rfl, hyes⟩ | ⟨v, rfl, hno, hrest⟩
    · rw [List.append_nil]
      exact .of_decided hchecked hyes
    · -- The last verdict is that of this parent.
      obtain ⟨rfl, rfl⟩ := Inquiry.yields_pure.mp hrest
      rw [List.append_nil]
      exact .exhausted hchecked hno
  | cons next rest ih =>
    obtain ⟨u, x, w, rfl, hchecked, hrest⟩ := tryParents_cons_course h
    rcases hrest with ⟨rfl, rfl, hyes⟩ | ⟨v, rfl, hno, hrest⟩
    · rw [List.append_nil]
      exact .of_decided hchecked hyes
    · exact .passedOver hchecked hno (ih hrest)

theorem evaluateParents_course (hparent : a.hasParent = true)
    (h : (evaluateParents r a born).Yields t f) : Walk (a.references r born) t f := by
  rw [Applicant.references, if_pos hparent]
  unfold evaluateParents at h
  cases hparents : a.parents with
  | nil => exact absurd hparents (Applicant.parents_ne_nil hparent)
  | cons parent others =>
    rw [hparents] at h
    exact tryParents_course h

/-- Where a finding is only reported, its history is that of the finding. -/
theorem yields_of_reported {x : Inquiry Finding} {es : Verdict → List Event} {t : List Exchange}
    {f : Finding}
    (h : (x >>= fun f => match f with
      | .error e => pure (.error e)
      | .ok v => do
        Inquiry.notes (es v)
        return .ok v).Yields t f) : x.Yields t f := by
  obtain ⟨u, f', w, rfl, hx, hrest⟩ := h.of_bind
  cases f' with
  | error e =>
    obtain ⟨rfl, rfl⟩ := Inquiry.yields_pure.mp hrest
    rwa [List.append_nil]
  | ok v =>
    have hreported : (Inquiry.notes (es v) >>= fun _ => pure (.ok v)).Yields w f := hrest
    rw [Inquiry.yields_notes_bind, Inquiry.yields_pure] at hreported
    obtain ⟨rfl, rfl⟩ := hreported
    rwa [List.append_nil]

/-- The guardian is checked if the number is given and the relationship can be read. -/
theorem evaluateGuardian_course (hclaim : a.claim = .byBirth)
    (hborn : a.dateOfBirth.bind r.date? = some born) (hparent : a.hasParent = false)
    (h : (evaluateGuardian r a born).Yields t f) : Evaluating r a t f := by
  unfold evaluateGuardian at h
  split at h
  · next hnin =>
    obtain ⟨rfl, rfl⟩ := Inquiry.yields_noted.mp h
    exact .guardianMissing hclaim hborn hparent hnin _
  · next hnin hlabel =>
    obtain ⟨rfl, rfl⟩ := Inquiry.yields_noted.mp h
    exact .relationshipUnreadable hclaim hborn hparent hnin hlabel _
  · next nin label hnin hlabel =>
    rw [Inquiry.yields_notes_bind] at h
    obtain ⟨u, found, w, rfl, hcheck, hrest⟩ := h.of_bind
    obtain ⟨rfl, rfl⟩ := Inquiry.yields_noted.mp hrest
    refine .walked hclaim hborn ?_
    rw [Applicant.references_of_guardian hparent hnin hlabel, List.append_nil]
    exact .of_only (checkGuardian_course hcheck)

/-- **Every evaluation of an applicant** takes one of the courses. -/
theorem evaluateApplicant_course (h : (evaluateApplicant r a).Yields t f) : Evaluating r a t f := by
  unfold evaluateApplicant at h
  split at h
  · next hclaim =>
    obtain ⟨rfl, rfl⟩ := Inquiry.yields_noted.mp h
    exact .otherClaim hclaim _
  · next hclaim =>
    have hclaim : a.claim = .byBirth := Decidable.not_not.mp hclaim
    split at h
    · next hborn =>
      obtain ⟨rfl, rfl⟩ := Inquiry.yields_noted.mp h
      exact .birthUnreadable hclaim hborn _
    · next born hborn =>
      simp only [Inquiry.yields_notes_bind] at h
      split at h
      · next hparent =>
        exact .walked hclaim hborn (evaluateParents_course hparent (yields_of_reported h))
      · next hparent =>
        exact evaluateGuardian_course hclaim hborn (Bool.eq_false_iff.mpr hparent)
          (yields_of_reported h)

theorem assess_course {id : RegistrationId}
    {y : Except EvaluationFailure (Applicant × Verdict)} (h : (assess r id).Yields t y) :
    Assessing r id t y := by
  unfold assess fetchApplicant at h
  obtain ⟨u, x, w, rfl, hfetch, hrest⟩ := h.of_bind
  rw [Inquiry.yields_notes_bind] at hfetch
  obtain ⟨answer, u', rfl, hanswer⟩ := hfetch.of_ask_bind
  cases answer with
  | error e =>
    obtain ⟨rfl, rfl⟩ := Inquiry.yields_pure.mp hanswer
    obtain ⟨rfl, rfl⟩ := Inquiry.yields_pure.mp hrest
    exact .notFetched e
  | ok fields =>
    obtain ⟨rfl, rfl⟩ := Inquiry.yields_pure.mp hanswer
    obtain ⟨w₁, f, w₂, rfl, hevaluate, hrest⟩ := hrest.of_bind
    cases f with
    | error e =>
      obtain ⟨rfl, rfl⟩ := Inquiry.yields_pure.mp hrest
      rw [List.append_nil]
      exact .evaluated hevaluate
    | ok v =>
      obtain ⟨rfl, rfl⟩ := Inquiry.yields_pure.mp hrest
      rw [List.append_nil]
      exact .evaluated hevaluate

/-- An evaluation comes to the verdict on the applicant. -/
theorem evaluate_of_assess {id : RegistrationId}
    {y : Except EvaluationFailure (Applicant × Verdict)} (h : (assess r id).Yields t y) :
    (evaluate r id).Yields t (y.map (·.2)) := by
  have hevaluate := h.bind (f := fun y => pure (y.map (·.2))) (Inquiry.yields_pure.mpr ⟨rfl, rfl⟩)
  rwa [List.append_nil] at hevaluate

/-- **Every evaluation of a registration** fetches the form first and then evaluates the applicant. -/
theorem evaluate_course {id : RegistrationId} (h : (evaluate r id).Yields t f) :
    (∃ e, t = [⟨.fields id FormField.names, .error e⟩] ∧ f = .error (.fields e)) ∨
      ∃ fields u, t = ⟨.fields id FormField.names, .ok fields⟩ :: u ∧
        Evaluating r (.ofFields id fields) u f := by
  unfold evaluate at h
  obtain ⟨u, y, w, rfl, hassess, hrest⟩ := h.of_bind
  obtain ⟨rfl, rfl⟩ := Inquiry.yields_pure.mp hrest
  rw [List.append_nil]
  cases assess_course hassess with
  | notFetched e => exact .inl ⟨e, rfl, rfl⟩
  | @evaluated fields u f hevaluate =>
    have hcourse := evaluateApplicant_course hevaluate
    refine .inr ⟨fields, u, rfl, ?_⟩
    cases f <;> exact hcourse

/-! ## Single exchanges -/

namespace Block

variable {nin other : Nin} {role role' : String} {isLookedUp : Bool} {u v : List Exchange}

/-- The guard is asked once, before anything else, and about the person. -/
theorem of_check {answer : Except UsageFailure Bool}
    (h : Block nin role isLookedUp (u ++ ⟨.isOverused other role', answer⟩ :: v)) :
    u = [] ∧ other = nin ∧ role' = role := by
  generalize ht : u ++ ⟨.isOverused other role', answer⟩ :: v = t at h
  -- There are two exchanges at most, and only the first one is with the guard.
  cases h <;> rcases u with _ | ⟨x, _ | ⟨y, u⟩⟩ <;> simp_all

/-- The registry is asked at the end, about a number that the guard has just cleared. -/
theorem of_lookup {found : Except LookupFailure (Option Document)}
    (h : Block nin role isLookedUp (u ++ ⟨.document other, found⟩ :: v)) :
    u = [⟨.isOverused nin role, .ok false⟩] ∧ other = nin ∧ v = [] := by
  generalize ht : u ++ ⟨.document other, found⟩ :: v = t at h
  cases h <;> rcases u with _ | ⟨x, _ | ⟨y, u⟩⟩ <;> simp_all

/-- Nobody else is asked about. -/
theorem call_of_mem {x : Exchange} (h : Block nin role isLookedUp u) (hx : x ∈ u) :
    x.call = .isOverused nin role ∨ x.call = .document nin := by
  cases h with
  | notCleared h => exact .inl (by rw [List.mem_singleton.mp hx])
  | notLookedUp h => exact .inl (by rw [List.mem_singleton.mp hx])
  | lookedUp h found =>
    rcases List.mem_cons.mp hx with rfl | hx
    · exact .inl rfl
    · exact .inr (by rw [List.mem_singleton.mp hx])

end Block

theorem Reference.Checked.block {ref : Reference} (h : ref.Checked t f) :
    Block ref.nin ref.role ref.isLookedUp t := by
  cases h with
  | guardFailed e => exact .notCleared nofun
  | overused detail => exact .notCleared nofun
  | notLookedUp h => exact .notLookedUp h
  | registryFailed h e => exact .lookedUp h _
  | unknown h detail => exact .lookedUp h _
  | judged h d => exact .lookedUp h _

/-- A walk along one reference is the check of this one. -/
theorem Walk.checked {ref : Reference} (h : Walk [ref] t f) : ref.Checked t f := by
  cases h with
  | failed h => exact h
  | accepted h hyes => exact h
  | exhausted h hno => exact h
  | passedOver h hno hrest => cases hrest

/-- The first reference decides, is the last one, or is passed over. -/
theorem Walk.uncons {ref : Reference} {others : List Reference} (h : Walk (ref :: others) t f) :
    ∃ u x w, t = u ++ w ∧ ref.Checked u x ∧
      ((w = [] ∧ f = x ∧ (others = [] ∨ ∀ v, x = .ok v → v.eligible = true)) ∨
        ∃ v, x = .ok v ∧ v.eligible = false ∧ Walk others w f) := by
  cases h with
  | failed h => exact ⟨t, _, [], by simp, h, .inl ⟨rfl, rfl, .inr (by rintro _ ⟨⟩)⟩⟩
  | accepted h hyes =>
    exact ⟨t, _, [], by simp, h, .inl ⟨rfl, rfl, .inr (by rintro _ ⟨⟩; exact hyes)⟩⟩
  | exhausted h hno => exact ⟨t, _, [], by simp, h, .inl ⟨rfl, rfl, .inl rfl⟩⟩
  | @passedOver _ _ u w v _ h hno hrest => exact ⟨u, _, w, rfl, h, .inr ⟨v, rfl, hno, hrest⟩⟩

/-- **Every exchange of a walk** belongs to the check of one reference, from which on it is a walk. -/
theorem Walk.of_exchange {refs : List Reference} {u v : List Exchange} {x : Exchange}
    (h : Walk refs (u ++ x :: v) f) :
    ∃ before ref others u₁ u₂ v₁ v₂ g, refs = before ++ ref :: others ∧ u = u₁ ++ u₂ ∧
      v = v₁ ++ v₂ ∧ ref.Checked (u₂ ++ x :: v₁) g ∧ Walk (ref :: others) (u₂ ++ x :: v) f := by
  generalize ht : u ++ x :: v = t at h
  induction h generalizing u v with
  | @failed ref others t e hchecked =>
    subst ht
    exact ⟨[], ref, others, [], u, v, [], _, rfl, rfl, by simp, hchecked, .failed hchecked⟩
  | @accepted ref others t w hchecked hyes =>
    subst ht
    exact ⟨[], ref, others, [], u, v, [], _, rfl, rfl, by simp, hchecked, .accepted hchecked hyes⟩
  | @exhausted ref t w hchecked hno =>
    subst ht
    exact ⟨[], ref, [], [], u, v, [], _, rfl, rfl, by simp, hchecked, .exhausted hchecked hno⟩
  | @passedOver ref others t t' w g hchecked hno hrest ih =>
    -- The exchange belongs to the first reference, or to one of the others.
    rcases List.append_eq_append_iff.mp ht with ⟨c, rfl, hc⟩ | ⟨c, rfl, hc⟩
    · cases c with
      | nil =>
        obtain ⟨before, ref', others', u₁, u₂, v₁, v₂, g', rfl, hu, rfl, hchecked', hwalk⟩ :=
          ih (u := []) (v := v) hc
        obtain ⟨rfl, rfl⟩ := List.append_eq_nil_iff.mp hu.symm
        exact ⟨ref :: before, ref', others', u, [], v₁, v₂, g', rfl, by simp, rfl, hchecked', hwalk⟩
      | cons y c =>
        obtain ⟨rfl, rfl⟩ := List.cons.inj hc
        exact ⟨[], ref, others, [], u, c, t', _, rfl, rfl, rfl, hchecked,
          by simpa using Walk.passedOver hchecked hno hrest⟩
    · obtain ⟨before, ref', others', u₁, u₂, v₁, v₂, g', rfl, rfl, rfl, hchecked', hwalk⟩ :=
        ih hc.symm
      exact ⟨ref :: before, ref', others', t ++ u₁, u₂, v₁, v₂, g', rfl, by simp, rfl, hchecked',
        hwalk⟩

end Birthright
