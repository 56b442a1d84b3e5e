import Birthright.Lineage

/-!
# Verdicts

A verdict says whether an applicant is eligible, for which reason, and with which details. Every
reason has a code under which it is stored and a summary for a reader.
-/

namespace Birthright

/-- Why a verdict is as it is. -/
inductive Reason where
  | success
  | notCitizenByBirth
  | invalidDateOfBirth
  | ninUsageExceeded
  | ninNotFound
  | ageDifferenceFailed
  | tribeMismatch
  | clanMismatch
  | guardianNinMissing
  | guardianRelationshipUnreadable
  | guardianValidationFailed
  | processingError
  deriving DecidableEq, Repr

namespace Reason

/-- All reasons. -/
def all : List Reason :=
  [success, notCitizenByBirth, invalidDateOfBirth, ninUsageExceeded, ninNotFound,
   ageDifferenceFailed, tribeMismatch, clanMismatch, guardianNinMissing,
   guardianRelationshipUnreadable, guardianValidationFailed, processingError]

/-- The code of a reason. -/
def code : Reason → String
  | .success => "SUCCESS"
  | .notCitizenByBirth => "NOT_CITIZEN_BY_BIRTH"
  | .invalidDateOfBirth => "INVALID_DOB"
  | .ninUsageExceeded => "NIN_USAGE_EXCEEDED"
  | .ninNotFound => "UIN_NOT_FOUND"
  | .ageDifferenceFailed => "AGE_DIFFERENCE_FAILED"
  | .tribeMismatch => "TRIBE_MISMATCH"
  | .clanMismatch => "CLAN_MISMATCH"
  | .guardianNinMissing => "GUARDIAN_NIN_MISSING"
  | .guardianRelationshipUnreadable => "GUARDIAN_RELATION_PARSE_ERROR"
  | .guardianValidationFailed => "GUARDIAN_VALIDATION_FAILED"
  | .processingError => "PROCESSING_ERROR"

/-- What a reason says. -/
def summary : Reason → String
  | .success => "citizenship verification succeeded"
  | .notCitizenByBirth => "applicant is not claiming citizenship by birth"
  | .invalidDateOfBirth => "applicant date of birth is invalid"
  | .ninUsageExceeded => "reference NIN cited more often than allowed"
  | .ninNotFound => "reference NIN not found in registry"
  | .ageDifferenceFailed => "age difference with reference person too small"
  | .tribeMismatch => "tribe mismatch with reference person"
  | .clanMismatch => "clan mismatch with reference person"
  | .guardianNinMissing => "guardian NIN missing"
  | .guardianRelationshipUnreadable => "guardian relationship could not be parsed"
  | .guardianValidationFailed => "guardian validation failed"
  | .processingError => "error while processing reference person"

/-- The reason that a difference of lineages gives. -/
def ofMismatch : Mismatch → Reason
  | .tribe => .tribeMismatch
  | .clan => .clanMismatch

/-- A reason by the name under which it is stored. -/
def ofCode? (s : String) : Option Reason := all.find? (·.code = s)

/-- The value that is stored for a reason. -/
def toJson (r : Reason) : Json := .str r.code

/-- Reads a reason from its stored form. -/
def ofWritten? (w : Json.Written) : Option Reason := w.choice? ofCode?

end Reason

/-- The outcome of an evaluation. -/
structure Verdict where
  eligible : Bool
  reason : Reason
  detail : String
  deriving DecidableEq, Repr

namespace Verdict

/-- The applicant is eligible. -/
def pass (detail : String) : Verdict := ⟨true, .success, detail⟩

/-- The applicant is not eligible. -/
def fail (reason : Reason) (detail : String) : Verdict := ⟨false, reason, detail⟩

/-- What a verdict says: its reason, and the details if there are any. -/
def summary (v : Verdict) : String :=
  if v.detail.isEmpty then v.reason.summary else v.reason.summary ++ ": " ++ v.detail

/-! ## Stored form -/

/-- The names of a verdict's parts in the stored form. -/
def partNames : List String := ["eligible", "reason", "detail"]

/-- The value that is stored for a verdict. -/
def toJson (v : Verdict) : Json :=
  .obj (partNames.zip [.bool v.eligible, v.reason.toJson, .str v.detail])

open Json.Written in
/-- Reads a verdict from its stored form. -/
def ofWritten? (w : Json.Written) : Option Verdict := do
  match ← w.parts? partNames partNames.length with
  | [eligible, reason, detail] =>
    return { eligible := ← required? bool? eligible
             reason := ← required? Reason.ofWritten? reason
             detail := ← required? string? detail }
  | _ => none

end Verdict

end Birthright
