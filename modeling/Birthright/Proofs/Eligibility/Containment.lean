import Birthright.Proofs.Eligibility.Course

/-!
# Where failures end

An evaluation fails only if the form cannot be fetched or a person cannot be looked up, and then at
once. All else that goes wrong in the check of a person, a failure of the usage guard or a malformed
date of birth in a document, is a verdict on this person and nobody else.

* `Walk.told`, `evaluate_told` — the finding tells of the outage at the end, if there is one
* `Walk.contained` — after an error in the check of a father the mother decides alone
* `evaluate_contains` — the whole evaluation
-/

namespace Birthright

open Calendar (Date)

/-! ## Outages -/

/-- The failure of an evaluation that an exchange makes: no form is fetched, or nobody looked up. -/
def Exchange.outage? : Exchange → Option EvaluationFailure
  | ⟨.fields .., .error e⟩ => some (.fields e)
  | ⟨.document .., .error e⟩ => some (.lookup e)
  | _ => none

/-- No exchange makes the evaluation fail. -/
def Unbroken (t : List Exchange) : Prop := ∀ x ∈ t, x.outage? = none

/-- A finding tells of the outage with which the exchanges end, if there is one. -/
inductive Told : List Exchange → Finding → Prop where
  | verdict {t : List Exchange} (h : Unbroken t) (v : Verdict) : Told t (.ok v)
  | outage {t : List Exchange} {x : Exchange} {e : EvaluationFailure} (h : Unbroken t)
      (hlast : x.outage? = some e) : Told (t ++ [x]) (.error e)

/-- An outage is worth another try. -/
theorem Exchange.isRetryable_of_outage {x : Exchange} {e : EvaluationFailure}
    (h : x.outage? = some e) : e.isRetryable = true := by
  unfold outage? at h
  split at h <;> cases h <;> rfl

theorem Unbroken.append {t u : List Exchange} (ht : Unbroken t) (hu : Unbroken u) :
    Unbroken (t ++ u) := by
  intro x hx
  rcases List.mem_append.mp hx with hx | hx
  · exact ht x hx
  · exact hu x hx

theorem unbroken_singleton {x : Exchange} (h : x.outage? = none) : Unbroken [x] := by
  intro y hy
  rwa [List.mem_singleton.mp hy]

namespace Told

variable {t u v : List Exchange} {f : Finding} {x : Exchange} {e : EvaluationFailure}

theorem append (ht : Unbroken t) (h : Told u f) : Told (t ++ u) f := by
  cases h with
  | verdict h v => exact .verdict (ht.append h) v
  | outage h hlast =>
    rw [← List.append_assoc]
    exact .outage (ht.append h) hlast

/-- **The evaluation fails** exactly with an outage among the exchanges. -/
theorem error_iff (h : Told t f) : f = .error e ↔ ∃ x ∈ t, x.outage? = some e := by
  cases h with
  | verdict h v =>
    refine iff_of_false nofun ?_
    rintro ⟨x, hx, hout⟩
    rw [h x hx] at hout
    cases hout
  | @outage t y e' h hlast =>
    constructor
    · rintro ⟨⟩
      exact ⟨y, by simp, hlast⟩
    · rintro ⟨x, hx, hout⟩
      rcases List.mem_append.mp hx with hx | hx
      · rw [h x hx] at hout
        cases hout
      · rw [List.mem_singleton.mp hx, hlast] at hout
        rw [Option.some.inj hout]

/-- Nothing is asked after an outage. -/
theorem eq_nil_of_outage (h : Told (u ++ x :: v) f) (hout : x.outage? ≠ none) : v = [] := by
  generalize ht : u ++ x :: v = t at h
  cases h with
  | verdict h w =>
    subst ht
    exact absurd (h x (by simp)) hout
  | @outage t y e h hlast =>
    -- If something came after it, the outage would be among the exchanges before the last one.
    rcases List.eq_nil_or_concat v with rfl | ⟨v, z, rfl⟩
    · rfl
    · rw [List.concat_eq_append, ← List.cons_append, ← List.append_assoc] at ht
      obtain ⟨rfl, -⟩ := List.append_inj' ht rfl
      exact absurd (h x (by simp)) hout

end Told

variable {r : Rules} {a : Applicant} {born : Date} {t : List Exchange} {f : Finding}

theorem unbroken_check {nin : Nin} {role : String} {answer : Except UsageFailure Bool} :
    Unbroken [⟨.isOverused nin role, answer⟩] := unbroken_singleton rfl

theorem Reference.Checked.told {ref : Reference} (h : ref.Checked t f) : Told t f := by
  cases h with
  | guardFailed e => exact .verdict unbroken_check _
  | overused detail => exact .verdict unbroken_check _
  | notLookedUp h => exact .verdict unbroken_check _
  | registryFailed h e => exact .outage unbroken_check rfl
  | unknown h detail => exact .verdict (unbroken_check.append (unbroken_singleton rfl)) _
  | judged h d => exact .verdict (unbroken_check.append (unbroken_singleton rfl)) _

/-- A check that came to a verdict met no outage. -/
theorem Told.unbroken {v : Verdict} (h : Told t (.ok v)) : Unbroken t := by
  cases h with
  | verdict h => exact h

/-- **A walk tells** of the outage at which it ends. -/
theorem Walk.told {refs : List Reference} (h : Walk refs t f) : Told t f := by
  induction h with
  | failed h => exact h.told
  | accepted h hyes => exact h.told
  | exhausted h hno => exact h.told
  | passedOver h hno hrest ih => exact ih.append h.told.unbroken

theorem Evaluating.told (h : Evaluating r a t f) : Told t f := by
  have hnone : Unbroken [] := fun x hx => nomatch hx
  cases h with
  | otherClaim hclaim detail => exact .verdict hnone _
  | birthUnreadable hclaim hborn detail => exact .verdict hnone _
  | guardianMissing hclaim hborn hparent hnin detail => exact .verdict hnone _
  | relationshipUnreadable hclaim hborn hparent hnin hlabel detail => exact .verdict hnone _
  | walked hclaim hborn hwalk => exact hwalk.told

theorem evaluate_told {id : RegistrationId} (h : (evaluate r id).Yields t f) : Told t f := by
  rcases evaluate_course h with ⟨e, rfl, rfl⟩ | ⟨fields, u, rfl, hevaluating⟩
  · exact .outage (t := []) (fun x hx => nomatch hx) rfl
  · exact hevaluating.told.append (unbroken_singleton rfl)

/-! ## Errors within a check -/

/-- The date of birth in a document is neither a text nor null, and what is said about it. -/
def Document.Malformed (d : Document) (e : EvaluationFailure) : Prop :=
  ∃ v, d.get? FormField.dateOfBirth.name = some v ∧ v ≠ .null ∧ (∀ raw, v ≠ .str raw) ∧
    e = .malformedDocument FormField.dateOfBirth.name ("expected a date string, found " ++ v.text)

/-- The age of the person with a role is checked: of parents, and among guardians of grandparents. -/
def Applicant.ChecksAge (a : Applicant) (role : String) : Prop :=
  a.hasParent = true ∨ GuardianCheck.ofLabel? role = some .grandparent

/-- An error in the check of a person: the guard fails, or a date that is needed is malformed. -/
inductive Trouble (a : Applicant) (nin : Nin) (role : String) :
    List Exchange → EvaluationFailure → Prop where
  | guardFailed (e : UsageFailure) : Trouble a nin role [⟨.isOverused nin role, .error e⟩] (.usage e)
  | malformed {d : Document} {e : EvaluationFailure} (hage : a.ChecksAge role) (h : d.Malformed e) :
      Trouble a nin role
        [⟨.isOverused nin role, .ok false⟩, ⟨.document nin, .ok (some d)⟩] e

/-- Who is checked if the person with a role does not vouch: the mother after the father. -/
def Applicant.next? (a : Applicant) (role : String) : Option Nin :=
  if role = ParentRole.father.label then a.motherNin else none

/-- Where an error in the check of a person with a role is said to have happened. -/
def Applicant.branch (a : Applicant) (role : String) : String :=
  if a.hasParent then role else "GUARDIAN"

/--
An error in the check of a person is a verdict on this person. The next person decides as if there
were nobody else; if there is none, it is the verdict on the applicant, and nothing more is asked.
-/
def Contained (r : Rules) (a : Applicant) (nin : Nin) (role : String) (block : List Exchange)
    (e : EvaluationFailure) (rest : List Exchange) (f : Finding) : Prop :=
  let verdict := Verdict.fail .processingError (a.branch role ++ ": " ++ e.message)
  ∃ born ref, a.dateOfBirth.bind r.date? = some born ∧ ref ∈ a.references r born ∧
    ref.nin = nin ∧ ref.role = role ∧ ref.Checked block (.ok verdict) ∧
    match a.next? role with
    | some mother => (Reference.ofParent r a born .mother mother).Checked rest f
    | none => rest = [] ∧ f = .ok verdict

/-- A date of birth is an error of the document exactly if it is malformed. -/
theorem birthIn_eq_error_iff {d : Document} {e : EvaluationFailure} :
    r.birthIn d = .error e ↔ d.Malformed e := by
  simp only [Rules.birthIn, Document.Malformed]
  split
  · next h => simp [h]
  · next h => simp [h]
  · next raw h => simp [h]
  · next v hnull hstr h =>
    have hnull : v ≠ .null := hnull
    have hstr : ∀ raw, v ≠ .str raw := hstr
    simp [h, hnull, hstr, eq_comm]

theorem Applicant.branch_eq {ref : Reference} (h : ref ∈ a.references r born) :
    ref.branch = a.branch ref.role := by
  rcases Applicant.mem_references h with ⟨hparent, role, nin, rfl⟩ | ⟨hparent, nin, label, rfl⟩
  · rw [branch, if_pos hparent]
    rfl
  · rw [branch, if_neg (by simp [hparent])]
    rfl

/-- After a reference there is only the mother, if the reference is the father. -/
theorem Applicant.eq_next_of_suffix {ref : Reference} {others : List Reference}
    (h : ref :: others <:+ a.references r born) :
    others = (a.next? ref.role).toList.map (.ofParent r a born .mother ·) := by
  cases hparent : a.hasParent with
  | true =>
    have hlast (h : ref :: others <:+ a.motherNin.toList.map (.ofParent r a born .mother ·)) :
        others = (a.next? ref.role).toList.map (.ofParent r a born .mother ·) := by
      cases hmother : a.motherNin with
      | none => simp [hmother] at h
      | some mother =>
        obtain ⟨rfl, rfl⟩ : ref = .ofParent r a born .mother mother ∧ others = [] := by
          simpa [hmother, List.suffix_cons_iff] using h
        rfl
    cases hfather : a.fatherNin with
    | none =>
      rw [references_of_no_father hparent hfather] at h
      exact hlast h
    | some father =>
      rw [references_of_father hfather] at h
      rcases List.suffix_cons_iff.mp h with hfirst | hrest
      · obtain ⟨rfl, rfl⟩ := List.cons.inj hfirst
        rfl
      · exact hlast hrest
  | false =>
    -- Without parents there is only the guardian, whose relationship may have any label.
    have hmother : a.motherNin = none := by simp_all [hasParent]
    unfold references at h
    rw [if_neg (by simp [hparent])] at h
    split at h
    · obtain ⟨-, rfl⟩ : ref = _ ∧ others = [] := by simpa [List.suffix_cons_iff] using h
      simp [next?, hmother]
    · simp at h

/-- A person whose age is checked is looked up. -/
theorem Applicant.isLookedUp_of_checksAge {ref : Reference} (hmem : ref ∈ a.references r born)
    (hage : a.ChecksAge ref.role) : ref.isLookedUp = true := by
  rcases Applicant.mem_references hmem with ⟨-, role, nin, rfl⟩ | ⟨hparent, nin, label, rfl⟩
  · rfl
  · rcases hage with hparents | hgrand
    · simp [hparent] at hparents
    · have hgrand : GuardianCheck.ofLabel? label = some .grandparent := hgrand
      simp [Reference.ofGuardian, hgrand]

/-- A malformed date of birth is a verdict on a person whose age is checked. -/
theorem Document.Malformed.judge_eq {ref : Reference} {d : Document} {e : EvaluationFailure}
    (h : d.Malformed e) (hmem : ref ∈ a.references r born) (hage : a.ChecksAge ref.role) :
    ref.judge d = .fail .processingError (ref.branch ++ ": " ++ e.message) := by
  have hbirth : r.birthIn d = .error e := birthIn_eq_error_iff.mpr h
  rcases Applicant.mem_references hmem with ⟨-, role, nin, rfl⟩ | ⟨hparent, nin, label, rfl⟩
  · simp only [Reference.ofParent, judgeParent, hbirth]
    rfl
  · rcases hage with hparents | hgrand
    · simp [hparent] at hparents
    · have hgrand : GuardianCheck.ofLabel? label = some .grandparent := hgrand
      simp only [Reference.ofGuardian, judgeGuardian, hgrand, judgeGrandparent, hbirth]
      rfl

/-- **An error in the check of a reference** is a verdict on it, and the check ends with the error. -/
theorem Trouble.of_checked {ref : Reference} {block u v w : List Exchange} {e : EvaluationFailure}
    (h : Trouble a ref.nin ref.role block e) (hmem : ref ∈ a.references r born)
    (hchecked : ref.Checked u f) (ht : block ++ v = u ++ w) :
    u = block ∧ f = .ok (.fail .processingError (a.branch ref.role ++ ": " ++ e.message)) := by
  rw [← Applicant.branch_eq hmem]
  cases h with
  | guardFailed e =>
    cases hchecked with
    | guardFailed e' =>
      obtain ⟨rfl, -⟩ : e = e' ∧ v = w := by simpa using ht
      exact ⟨rfl, rfl⟩
    | _ => simp [Reference.lookingUp] at ht
  | @malformed d e hage hmalformed =>
    cases hchecked with
    | judged h d' =>
      obtain ⟨rfl, -⟩ : d = d' ∧ v = w := by simpa [Reference.lookingUp] using ht
      exact ⟨rfl, by rw [hmalformed.judge_eq hmem hage]⟩
    | notLookedUp h => simp [Applicant.isLookedUp_of_checksAge hmem hage] at h
    | _ => simp [Reference.lookingUp] at ht

/-- **An error in a check stays there**, wherever on the walk it happens. -/
theorem Walk.contained {u block v : List Exchange} {nin : Nin} {role : String}
    {e : EvaluationFailure} (hborn : a.dateOfBirth.bind r.date? = some born)
    (h : Walk (a.references r born) (u ++ (block ++ v)) f) (htrouble : Trouble a nin role block e) :
    Contained r a nin role block e v f := by
  obtain ⟨answer, rest, hblock⟩ : ∃ answer rest,
      block = ⟨.isOverused nin role, answer⟩ :: rest := by
    cases htrouble <;> exact ⟨_, _, rfl⟩
  -- The guard is asked at the beginning of the check of one reference.
  rw [hblock, List.cons_append] at h
  obtain ⟨before, ref, others, u₁, u₂, v₁, v₂, g, hrefs, rfl, hv, hbegun, hwalk⟩ := h.of_exchange
  obtain ⟨rfl, rfl, rfl⟩ := hbegun.block.of_check
  rw [List.nil_append, ← List.cons_append, ← hblock] at hwalk
  obtain ⟨t, x, w, ht, hchecked, hend⟩ := hwalk.uncons
  have hmem : ref ∈ a.references r born := by
    rw [hrefs]
    exact List.mem_append_right before List.mem_cons_self
  obtain ⟨rfl, rfl⟩ := htrouble.of_checked hmem hchecked ht
  obtain rfl : v = w := List.append_cancel_left ht
  have hothers := Applicant.eq_next_of_suffix ⟨before, hrefs.symm⟩
  refine ⟨born, ref, hborn, hmem, rfl, rfl, hchecked, ?_⟩
  cases hnext : a.next? ref.role with
  | none =>
    rw [hnext] at hothers
    subst hothers
    rcases hend with ⟨rfl, rfl, -⟩ | ⟨v', -, -, hrest⟩
    · exact ⟨rfl, rfl⟩
    · cases hrest
  | some mother =>
    rw [hnext] at hothers
    subst hothers
    rcases hend with ⟨-, -, hnone | hyes⟩ | ⟨v', -, -, hrest⟩
    · cases hnone
    · cases hyes _ rfl
    · exact hrest.checked

theorem Evaluating.contained {u block v : List Exchange} {nin : Nin} {role : String}
    {e : EvaluationFailure} (h : Evaluating r a (u ++ (block ++ v)) f)
    (htrouble : Trouble a nin role block e) : Contained r a nin role block e v f := by
  -- Where nobody is checked there is no error.
  have hne : u ++ (block ++ v) ≠ [] := by cases htrouble <;> simp
  generalize ht : u ++ (block ++ v) = t at h hne
  cases h with
  | walked hclaim hborn hwalk =>
    rw [← ht] at hwalk
    exact hwalk.contained hborn htrouble
  | _ => exact absurd rfl hne

/-! ## The whole evaluation -/

/-- Which failures come out of an evaluation, and which stay within. -/
structure Containment (r : Rules) (id : RegistrationId) (t : List Exchange) (f : Finding) : Prop where
  /-- It fails exactly if no form is fetched or nobody looked up, and with this failure. -/
  error_iff : ∀ e, f = .error e ↔ ∃ x ∈ t, x.outage? = some e
  /-- Nothing is asked after this. -/
  last : ∀ u x v, t = u ++ x :: v → x.outage? ≠ none → v = []
  /-- Every failure is worth another try. -/
  retryable : ∀ e, f = .error e → e.isRetryable = true
  /-- An error in the check of a person stays there. -/
  contained : ∀ fields u block v nin role e,
    t = ⟨.fields id FormField.names, .ok fields⟩ :: (u ++ (block ++ v)) →
    Trouble (.ofFields id fields) nin role block e →
    Contained r (.ofFields id fields) nin role block e v f

/-- **An evaluation contains its errors**, and only outages come out of it. -/
theorem evaluate_contains {id : RegistrationId} (h : (evaluate r id).Yields t f) :
    Containment r id t f where
  error_iff _ := (evaluate_told h).error_iff
  last := by
    rintro u x v rfl
    exact (evaluate_told h).eq_nil_of_outage
  retryable e he := by
    obtain ⟨x, -, hx⟩ := (evaluate_told h).error_iff.mp he
    exact Exchange.isRetryable_of_outage hx
  contained := by
    rintro fields u block v nin role e rfl htrouble
    rcases evaluate_course h with ⟨e', ht, -⟩ | ⟨fields', t, ht, hevaluating⟩
    · simp at ht
    · obtain ⟨rfl, rfl⟩ : fields = fields' ∧ u ++ (block ++ v) = t := by simpa using ht
      exact hevaluating.contained htrouble

end Birthright
