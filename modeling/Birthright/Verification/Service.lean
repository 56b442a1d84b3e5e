import Birthright.Eligibility.Evaluation

/-!
# The verification service

Processing a registration evaluates it, counts the citations if it passes for the first time,
stores the outcome, and makes it known. An evaluation that fails is stored and made known too, and
its failure is given back, so that the registration is tried again.

Every effect is one call, and a call that fails ends the processing.
-/

namespace Birthright

open Calendar (Instant)

/-- Why a registration could not be processed or looked up. -/
inductive ServiceFailure where
  | evaluation (failure : EvaluationFailure)
  | record (failure : RecordFailure)
  | audit (failure : AuditFailure)
  | usage (failure : UsageFailure)
  deriving DecidableEq, Repr

/-- What is said about a failure. -/
def ServiceFailure.message : ServiceFailure → String
  | .evaluation failure => failure.message
  | .record failure => failure.message
  | .audit failure => failure.message
  | .usage failure => failure.message

/-- Counts citations one after the other. -/
def citeAll (a : Applicant) : List (Nin × String) → Inquiry (Except ServiceFailure Unit)
  | [] => return .ok ()
  | (nin, role) :: others => do
    match ← Inquiry.cite nin role with
    | .error e => return .error (.usage e)
    | .ok () =>
      Inquiry.notes [⟨.info, "recorded NIN citation",
        [a.logId, ("nin", nin.masked), ("role", role)]⟩]
      citeAll a others

/-- Counts what an eligible applicant cites, unless the registration has passed before. -/
def countCitations (a : Applicant) (v : Verdict) : Inquiry (Except ServiceFailure Unit) := do
  if v.eligible then
    match ← Inquiry.fetch a.registrationId with
    | .error e => return .error (.record e)
    | .ok earlier => if earlier.any Outcome.isValid then return .ok () else citeAll a a.citations
  else return .ok ()

/-- Stores an outcome and makes it known. -/
def conclude (o : Outcome) : Inquiry (Except ServiceFailure Unit) := do
  match ← Inquiry.store o with
  | .error e => return .error (.record e)
  | .ok () =>
    match ← Inquiry.publish (.ofOutcome o) with
    | .error e => return .error (.audit e)
    | .ok () => return .ok ()

/-- Processes a registration. -/
def process (r : Rules) (now : Instant) (id : RegistrationId) :
    Inquiry (Except ServiceFailure Outcome) := do
  match ← assess r id with
  | .ok (a, v) =>
    match ← countCitations a v with
    | .error e => return .error e
    | .ok () =>
      let o := Outcome.ofVerdict id v now
      match ← conclude o with
      | .error e => return .error e
      | .ok () =>
        Inquiry.notes [⟨.info, "citizenship verification stage completed",
          [("registration_id", id.text), ("status", o.status.label)]⟩]
        return .ok o
  | .error e =>
    Inquiry.notes [⟨.error, "citizenship verification failed",
      [("registration_id", id.text), ("error", e.message)]⟩]
    match ← conclude (Outcome.ofFailure id e.message now) with
    | .error e' => return .error e'
    | .ok () => return .error (.evaluation e)

/-- Looks up the stored outcome of a registration. -/
def lookUp (id : RegistrationId) : Inquiry (Except ServiceFailure Outcome) := do
  match ← Inquiry.fetch id with
  | .error e => return .error (.record e)
  | .ok none => return .error (.record .notFound)
  | .ok (some o) => return .ok o

end Birthright
