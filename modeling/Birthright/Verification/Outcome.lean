import Birthright.Calendar.Instant
import Birthright.Eligibility.Verdict
import Birthright.Identity

/-!
# Outcomes of verification

What is stored for a registration after it was processed, and the view of it that is shown.
-/

namespace Birthright

open Calendar (Instant)

/-- Where a registration goes from here. -/
inductive Status where
  /-- On to the next stage. -/
  | passed
  /-- To a person who looks at it. -/
  | manualReview
  /-- Nowhere: a collaborator was out of order, and it will be tried again. -/
  | failed
  deriving DecidableEq, Repr

namespace Status

/-- All statuses. -/
def all : List Status := [passed, manualReview, failed]

/-- The name of a status where it is shown. -/
def label : Status → String
  | .passed => "passed"
  | .manualReview => "manual_review"
  | .failed => "failed"

/-- The name under which a status is stored. -/
def code : Status → String
  | .passed => "PASSED"
  | .manualReview => "MANUAL_REVIEW"
  | .failed => "FAILED"

/-- A status by the name under which it is stored. -/
def ofCode? (s : String) : Option Status := all.find? (·.code = s)

/-- The value that is stored for a status. -/
def toJson (s : Status) : Json := .str s.code

/-- Reads a status from its stored form. -/
def ofWritten? (w : Json.Written) : Option Status := w.choice? ofCode?

end Status

/-- What is stored for a registration. -/
structure Outcome where
  registrationId : RegistrationId
  status : Status
  verdict : Option Verdict
  internalError : Bool
  error : Option String
  processedAt : Instant
  deriving DecidableEq

/-- What is shown of an outcome. -/
structure StatusView where
  registrationId : RegistrationId
  status : Status
  isValid : Bool
  reason : Option Reason
  rationale : String
  processedAt : Instant
  deriving DecidableEq

namespace Outcome

/-- The outcome of an evaluation that came to a verdict. -/
def ofVerdict (id : RegistrationId) (v : Verdict) (now : Instant) : Outcome :=
  { registrationId := id
    status := if v.eligible then .passed else .manualReview
    verdict := some v
    internalError := false
    error := none
    processedAt := now }

/-- The outcome of an evaluation that failed. -/
def ofFailure (id : RegistrationId) (message : String) (now : Instant) : Outcome :=
  { registrationId := id
    status := .failed
    verdict := none
    internalError := true
    error := some message
    processedAt := now }

/-- Whether the registration passed. -/
def isValid (o : Outcome) : Bool := o.status = .passed

/-- Why the outcome is as it is. -/
def rationale (o : Outcome) : String :=
  match o.verdict, o.error with
  | some v, _ => v.summary
  | none, some e => "evaluation failed: " ++ e
  | none, none => "pending evaluation"

/-- What is shown of the outcome. -/
def view (o : Outcome) : StatusView :=
  { registrationId := o.registrationId
    status := o.status
    isValid := o.isValid
    reason := o.verdict.map Verdict.reason
    rationale := o.rationale
    processedAt := o.processedAt }

/-! ## Stored form -/

/-- The names of an outcome's parts in the stored form. -/
def partNames : List String :=
  ["registration_id", "status", "verdict", "internal_error", "error", "processed_at"]

/-- The value that is stored for an outcome. -/
def toJson (o : Outcome) : Json :=
  .obj <| partNames.zip
    [o.registrationId.toJson, o.status.toJson, (o.verdict.map Verdict.toJson).getD .null,
     .bool o.internalError, .ofText? o.error, .str o.processedAt.text]

open Json.Written in
/-- Reads an outcome from its stored form. -/
def ofWritten? (w : Json.Written) : Option Outcome := do
  match ← w.parts? partNames partNames.length with
  | [id, status, verdict, internal, error, time] =>
    return { registrationId := ← required? RegistrationId.ofWritten? id
             status := ← required? Status.ofWritten? status
             verdict := ← optional? Verdict.ofWritten? verdict
             internalError := ← required? bool? internal
             error := ← optional? string? error
             processedAt := ← (← required? string? time) |> Instant.ofText? }
  | _ => none

end Outcome

namespace StatusView

/-- The view as it is shown; without a verdict there is no reason to show. -/
def toJson (v : StatusView) : Json :=
  .obj <|
    [("registration_id", v.registrationId.toJson), ("status", .str v.status.label),
     ("is_valid", .bool v.isValid)]
    ++ (v.reason.map fun r => ("reason", r.toJson)).toList
    ++ [("decision_rationale", .str v.rationale), ("processed_at", .str v.processedAt.text)]

end StatusView

end Birthright
