import Birthright.Collaborator.Inquiry
import Birthright.Eligibility.Failure
import Birthright.Eligibility.Rules

/-!
# Checks of reference persons

What the checks of parents and guardians share: the date of birth in a document of the registry,
the texts for logs, and the boundary within which an error of a single check stays.
-/

namespace Birthright

open Calendar (AgeGap Date)

/-- What a check comes to. -/
abbrev Finding : Type := Except EvaluationFailure Verdict

/--
The date of birth in a document. A missing or unreadable text is no date, and a value of another
kind is an error of the document.
-/
def Rules.birthIn (r : Rules) (d : Document) : Except EvaluationFailure (Option Date) :=
  let field := FormField.dateOfBirth.name
  match d.get? field with
  | none | some .null => .ok none
  | some (.str raw) => .ok (r.date? raw)
  | some v => .error (.malformedDocument field ("expected a date string, found " ++ v.text))

/-- The part of an event that says which registration it is about. -/
def Applicant.logId (a : Applicant) : String × String := ("registration_id", a.registrationId.text)

/-- The text of an age gap in a log. -/
def gapLogText : Option AgeGap → String
  | none => "None"
  | some g =>
    "Some(AgeGap \x7b years: " ++ logInt g.years ++ ", months: " ++ logInt g.months ++ ", days: "
      ++ logInt g.days ++ " \x7d)"

/--
The boundary of the check of one person: a failure that calls for another try gets through, and any
other becomes a verdict on this person.
-/
def contain (a : Applicant) (branch : String) : Finding → List Event × Finding
  | .ok v => ([], .ok v)
  | .error e =>
    if e.isRetryable then ([], .error e)
    else
      ([⟨.warn, "error while processing reference person",
          [a.logId, ("branch", branch), ("error", e.message)]⟩],
        .ok (.fail .processingError (branch ++ ": " ++ e.message)))

end Birthright
