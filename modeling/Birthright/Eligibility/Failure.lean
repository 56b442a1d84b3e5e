import Birthright.Collaborator.Failure

/-!
# Failures of an evaluation

An evaluation fails when a collaborator is out of order or a document of the registry is malformed.
Of these only an outage of the packet store or the registry is worth another try; the others stay
within the check of the person concerned.
-/

namespace Birthright

/-- Why a registration could not be evaluated. -/
inductive EvaluationFailure where
  | fields (failure : FieldFailure)
  | lookup (failure : LookupFailure)
  | usage (failure : UsageFailure)
  | malformedDocument (field cause : String)
  deriving DecidableEq, Repr

namespace EvaluationFailure

/-- What is said about a failed evaluation. -/
def message : EvaluationFailure → String
  | .fields failure => failure.message
  | .lookup failure => failure.message
  | .usage failure => failure.message
  | .malformedDocument field cause =>
    "registry document field `" ++ field ++ "` is malformed: " ++ cause

/-- Whether the registration should be tried again later. -/
def isRetryable : EvaluationFailure → Bool
  | .fields _ | .lookup _ => true
  | .usage _ | .malformedDocument _ _ => false

end EvaluationFailure

end Birthright
