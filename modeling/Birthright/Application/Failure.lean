import Birthright.Http.Resource
import Birthright.Settings.Configuration

/-!
# Failures of the application

Whatever ends the application early, with the part of it that failed in front of the message. A
failure can also be the answer to a request.
-/

namespace Birthright

/-- Why the application ends early. -/
inductive ApplicationFailure where
  | configuration (failure : ConfigurationFailure)
  | logging (failure : LoggingFailure)
  | io (cause : String)
  | server (cause : String)
  | fixture (cause : String)
  | verification (failure : ServiceFailure)
  deriving DecidableEq, Repr

namespace ApplicationFailure

/-- What the failed part says itself. -/
def cause : ApplicationFailure → String
  | .configuration failure => failure.message
  | .logging failure => failure.message
  | .io cause | .server cause | .fixture cause => cause
  | .verification failure => failure.message

/-- The name of the part that failed. -/
def part : ApplicationFailure → String
  | .configuration _ => "configuration"
  | .logging _ => "telemetry"
  | .io _ => "io"
  | .server _ => "server"
  | .fixture _ => "fixture"
  | .verification _ => "verification"

/-- What is said about a failure. -/
def message (f : ApplicationFailure) : String := f.part ++ " error: " ++ f.cause

/-- The status of an answer: only a fixture is the fault of whoever sent it. -/
def status : ApplicationFailure → Nat
  | .fixture _ => 400
  | .verification (.evaluation e) => if e.isRetryable then 503 else 500
  | _ => 500

/-- The failure as an answer to a request. -/
def response (f : ApplicationFailure) : Http.Response := Http.failureResponse f.status f.message

end ApplicationFailure

end Birthright
