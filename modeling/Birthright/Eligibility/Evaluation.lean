import Birthright.Eligibility.Guardian
import Birthright.Eligibility.Parent

/-!
# Evaluation of a registration

The fields of the form are fetched once. Who does not claim citizenship by birth, or gives no
readable date of birth, is not eligible; all others are judged by their parents if a parent is
cited, and by their guardian otherwise.
-/

namespace Birthright

/-- Fetches the fields of a registration. -/
def fetchApplicant (id : RegistrationId) : Inquiry (Except EvaluationFailure Applicant) := do
  Inquiry.notes [⟨.info, "starting citizenship eligibility evaluation",
    [("registration_id", id.text)]⟩]
  match ← Inquiry.fields id FormField.names with
  | .error e => return .error (.fields e)
  | .ok fields => return .ok (.ofFields id fields)

/-- Evaluates an applicant. -/
def evaluateApplicant (r : Rules) (a : Applicant) : Inquiry Finding := do
  if a.claim ≠ .byBirth then
    Inquiry.noted
      ([⟨.info, "applicant is not claiming citizenship by birth", [a.logId]⟩],
        .ok (.fail .notCitizenByBirth "citizenship type is not by birth"))
  else
    match a.dateOfBirth.bind r.date? with
    | none =>
      Inquiry.noted
        ([⟨.warn, "applicant date of birth missing or unparseable", [a.logId]⟩],
          .ok (.fail .invalidDateOfBirth
            ("expected applicant date of birth in format " ++ r.datePattern)))
    | some born =>
      let course := if a.hasParent then "at least one parent NIN supplied, validating parents"
        else "no parent NIN supplied, validating guardian"
      Inquiry.notes [⟨.info, course, [a.logId]⟩]
      match ← if a.hasParent then evaluateParents r a born else evaluateGuardian r a born with
      | .error e => return .error e
      | .ok v =>
        Inquiry.notes [⟨.info, "citizenship eligibility evaluated",
          [a.logId, ("eligible", if v.eligible then "true" else "false"),
           ("reason", v.reason.code)]⟩]
        return .ok v

/-- Fetches the applicant of a registration and evaluates it. -/
def assess (r : Rules) (id : RegistrationId) :
    Inquiry (Except EvaluationFailure (Applicant × Verdict)) := do
  match ← fetchApplicant id with
  | .error e => return .error e
  | .ok a =>
    match ← evaluateApplicant r a with
    | .error e => return .error e
    | .ok v => return .ok (a, v)

/-- Evaluates a registration. -/
def evaluate (r : Rules) (id : RegistrationId) : Inquiry Finding := do
  return (← assess r id).map (·.2)

end Birthright
