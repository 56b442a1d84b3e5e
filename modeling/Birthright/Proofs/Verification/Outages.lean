import Birthright.Http.Resource
import Birthright.Proofs.Eligibility.Containment
import Birthright.Proofs.Verification.Course

/-!
# Answers after outages

A registration whose evaluation fails shall be tried again, and the answer to the request says so:
what comes out of an evaluation is always an outage, and never an error in the check of a person.

* `isRetryable_of_process` — a failure of the evaluation that the processing gives back
* `failures_contained` — which failures come out of an evaluation, and how they are answered
-/

namespace Birthright

open Calendar (Instant)

variable {σ : Type} {w : Collaborators σ} {s : σ} {r : Rules} {id : RegistrationId}
  {t : List Exchange} {e : EvaluationFailure}

/-- To store an outcome and make it known never fails like an evaluation. -/
theorem Concluding.ne_evaluation {o : Outcome} {x : Except ServiceFailure Unit}
    (h : Concluding o t x) : x ≠ .error (.evaluation e) := by
  cases h <;> nofun

theorem Charging.ne_evaluation {a : Applicant} {x : Except ServiceFailure Unit}
    (h : Charging a t x) : x ≠ .error (.evaluation e) := by
  cases h <;> nofun

/-- The processing fails like an evaluation only if the evaluation failed. -/
theorem Course.evaluation_failed {q : Request} (h : Course r q t (.error (.evaluation e))) :
    ∃ asked, (assess r q.id).Yields asked (.error e) := by
  generalize hx : (Except.error (.evaluation e) : Except ServiceFailure Outcome) = x at h
  cases h with
  | @failed asked _ e' y hassess hconclude =>
    cases y with
    | error e'' =>
      cases hx
      exact absurd rfl hconclude.ne_evaluation
    | ok _ =>
      cases hx
      exact ⟨asked, hassess⟩
  | @rejected _ _ _ _ y hassess hno hconclude =>
    cases y with
    | error e' =>
      cases hx
      exact absurd rfl hconclude.ne_evaluation
    | ok _ => cases hx
  | stopped hassess hyes hcharge =>
    cases hx
    exact absurd rfl hcharge.ne_evaluation
  | @accepted _ _ _ _ _ y hassess hyes hcharge hconclude =>
    cases y with
    | error e' =>
      cases hx
      exact absurd rfl hconclude.ne_evaluation
    | ok _ => cases hx

/-- **A failure of the evaluation** that the processing gives back is worth another try. -/
theorem isRetryable_of_process {now : Instant}
    (h : ((process r now id).run w s).result = .error (.evaluation e)) : e.isRetryable = true := by
  have hcourse := course_of_run w r ⟨id, now⟩ s
  rw [h] at hcourse
  obtain ⟨asked, hassess⟩ := hcourse.evaluation_failed
  exact (evaluate_contains (evaluate_of_assess hassess)).retryable e rfl

/-- A request to process a registration is answered with what the processing comes to. -/
theorem result_answerVerification {now : Instant} {segment : List Char}
    (hid : Http.segmentText? segment = some id.text) :
    ((Http.answerVerification r now .post segment).run w s).result
      = Http.processedResponse id ((process r now id).run w s).result := by
  unfold Http.answerVerification
  rw [hid]
  dsimp only
  rw [Inquiry.run_bind]
  rfl

/--
**Errors are contained**, and only outages come out of an evaluation. The answer to a request to
process the registration then says that the service is not available.
-/
theorem failures_contained {σ : Type} (w : Collaborators σ) (r : Rules) (id : RegistrationId)
    (s : σ) : Containment r id ((evaluate r id).exchanges w s) ((evaluate r id).run w s).result ∧
      ∀ now segment e, Http.segmentText? segment = some id.text →
        ((process r now id).run w s).result = .error (.evaluation e) →
        ((Http.answerVerification r now .post segment).run w s).result
          = .json 503 (.obj [("error", .str e.message), ("registration_id", id.toJson),
            ("status", .str Status.failed.label)]) := by
  refine ⟨evaluate_contains (Inquiry.yields_run w _ s), ?_⟩
  intro now segment e hid hfailed
  rw [result_answerVerification hid, hfailed, Http.processedResponse,
    if_pos (isRetryable_of_process hfailed)]

/-! ## A malformed date that is not read -/

/-- A registry where the date of birth of a sibling is malformed, and a form that cites the sibling. -/
def malformedSibling : Memory :=
  .fresh
    [(⟨"A"⟩, [("applicantCitizenshipType", "[\x7b\"value\":\"birth\"\x7d]"),
      ("dateOfBirth", "2000/01/01"), ("guardianNIN", "G"),
      ("guardianRelationToApplicant", "[\x7b\"value\":\"Brother or Sister\"\x7d]")])]
    [(⟨"G"⟩, ⟨[("dateOfBirth", .int 5)]⟩)] (.listed [])

/-- **A malformed date of birth of a sibling does no harm**: the age of siblings is not checked. -/
theorem malformed_sibling_accepted :
    ¬∀ (m : Memory) (r : Rules) (id : RegistrationId) (nin : Nin) (d : Document)
      (e : EvaluationFailure), m.outages = [] → (m.applicant id).hasParent = false →
      Call.document nin ∈ ((evaluate r id).runIn m).calls → Table.get? m.registry nin = some d →
      d.Malformed e →
      ∃ detail, ((evaluate r id).runIn m).result = .ok (.fail .processingError detail) := by
  intro h
  have hmalformed : (Document.mk [("dateOfBirth", .int 5)]).Malformed
      (.malformedDocument "dateOfBirth" "expected a date string, found 5") :=
    ⟨.int 5, rfl, nofun, nofun, by decide +kernel⟩
  obtain ⟨detail, hresult⟩ := h malformedSibling .standard ⟨"A"⟩ ⟨"G"⟩ _ _ rfl
    (by decide +kernel) (by decide +kernel) rfl hmalformed
  have haccepted : ((evaluate .standard ⟨"A"⟩).runIn malformedSibling).result.toOption.map
      Verdict.eligible = some true := by decide +kernel
  rw [hresult] at haccepted
  cases haccepted

end Birthright
