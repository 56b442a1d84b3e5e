/-!
# Failures of collaborators

What can go wrong in a call to the packet store, the registry, the usage guard, the repository and
the audit sink, and the message of each failure.
-/

namespace Birthright

/-- The packet store gave no fields. -/
inductive FieldFailure where
  | unavailable (cause : String)
  | timedOut
  deriving DecidableEq, Repr

/-- What is said about a failure of the packet store. -/
def FieldFailure.message : FieldFailure → String
  | .unavailable cause => "packet store unavailable: " ++ cause
  | .timedOut => "packet store request timed out"

/-- The registry could not be asked. -/
inductive LookupFailure where
  | unavailable (cause : String)
  deriving DecidableEq, Repr

/-- What is said about a failure of the registry. -/
def LookupFailure.message : LookupFailure → String
  | .unavailable cause => "identity repository unavailable: " ++ cause

/-- The usage guard could not be asked or told. -/
inductive UsageFailure where
  | unavailable (cause : String)
  deriving DecidableEq, Repr

/-- What is said about a failure of the usage guard. -/
def UsageFailure.message : UsageFailure → String
  | .unavailable cause => "nin usage service unavailable: " ++ cause

/-- The repository gave or took no record. -/
inductive RecordFailure where
  | notFound
  | unavailable (cause : String)
  deriving DecidableEq, Repr

/-- What is said about a failure of the repository. -/
def RecordFailure.message : RecordFailure → String
  | .notFound => "verification record not found"
  | .unavailable cause => "status repository unavailable: " ++ cause

/-- An audit event could not be sent. -/
inductive AuditFailure where
  | transport (cause : String)
  deriving DecidableEq, Repr

/-- What is said about a failure of the audit sink. -/
def AuditFailure.message : AuditFailure → String
  | .transport cause => "audit transport unavailable: " ++ cause

end Birthright
