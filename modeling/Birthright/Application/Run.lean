import Birthright.Application.Failure
import Birthright.Application.Help
import Birthright.Fixture

/-!
# Runs of the application

What the application comes to for a command, given the variables that are set, the time, and the
text of the fixture that the command names. Nothing here touches the world: whoever runs the
application reads the file beforehand, and prints or listens afterwards.
-/

namespace Birthright

open Calendar (Instant)

/-- How a run of the application ends. -/
inductive Ending where
  /-- With nothing but output. -/
  | finished (output : String)
  /-- By listening at an address. -/
  | listening (configuration : Configuration) (fixture : Fixture) (address : SocketAddress)
  | failed (failure : ApplicationFailure)
  /-- With arguments that are no command. -/
  | misused

namespace Ending

/-- How a run ends on a machine that does not have the address to listen at. -/
def withoutAddress : Ending → Ending
  | .listening _ _ _ => .failed (.io "Cannot assign requested address (os error 99)")
  | ending => ending

/-- The status that a program ends with; that of a server shows when it is told to stop. -/
def exitCode : Ending → UInt32
  | .finished _ | .listening _ _ _ => 0
  | .failed _ => 1
  | .misused => 2

/-- What is printed as the result. -/
def output : Ending → String
  | .finished output => output
  | _ => ""

/-- What is printed as the error. -/
def errorLine? : Ending → Option String
  | .failed failure => some ("application error: " ++ failure.message)
  | _ => none

end Ending

namespace Application

/-- The name and the version of the application. -/
def versionLine : String := "Citizenship Verification Stage 0.1.0\n"

/-! ## Output of a verification -/

/-- The view of an outcome for a reader. -/
def summary (v : StatusView) : String :=
  String.join <|
    ["Citizenship verification for " ++ v.registrationId.text ++ "\n",
     "  Status: " ++ v.status.label ++ "\n",
     "  Eligible: " ++ (if v.isValid then "true" else "false") ++ "\n"]
    ++ (v.reason.map fun r => "  Reason: " ++ r.code ++ "\n").toList
    ++ ["  Rationale: " ++ v.rationale ++ "\n",
        "  Processed at: " ++ v.processedAt.plainText ++ "\n"]

/-- A line about an audit event. -/
def auditLine (e : AuditEvent) : String :=
  "  Audit: " ++ e.eventId ++ " " ++ e.eventName ++ " (" ++ e.moduleId ++ ") " ++ e.description
    ++ "\n"

/-- What is printed after a verification. -/
def verificationText (asJson : Bool) (v : StatusView) (events : List AuditEvent) : String :=
  (if asJson then v.toJson.indentedText ++ "\n" else summary v)
    ++ String.join (events.map auditLine)

/-! ## Commands -/

/-- Reads the fixture in a file, of which there is the text or the reason why there is none. -/
def fixtureOf (file : Except String String) : Except ApplicationFailure Fixture :=
  match file with
  | .error cause => .error (.io cause)
  | .ok text =>
    match Fixture.ofText? text with
    | some fixture => .ok fixture
    | none => .error (.fixture "not a fixture")

/-- The configuration of an application. -/
def configure (vars : Variables) : Except ApplicationFailure Configuration :=
  (Configuration.ofVariables vars).mapError .configuration

/-- Verifies one registration from a fixture. -/
def verify (c : Configuration) (fixture : Fixture) (now : Instant) (id : RegistrationId) :
    Run Memory (Except ServiceFailure Outcome) :=
  (process c.rules now id).runIn (fixture.memory c.usageLimit)

/-- Verifies one registration and says what came of it. -/
def runVerify (vars : Variables) (now : Instant) (file : Except String String) (id : String)
    (asJson : Bool) : Except ApplicationFailure String := do
  let c ← configure vars
  let fixture ← fixtureOf file
  let run := verify c fixture now ⟨id⟩
  let o ← run.result.mapError .verification
  return verificationText asJson o.view run.state.published

/-- Prepares a server; options go before variables. -/
def runServe (vars : Variables) (file : Option (Except String String)) (host : Option String)
    (portNumber : Option UInt16) : Except ApplicationFailure Ending := do
  let c ← configure vars
  let c := { c with host := host.getD c.host, portNumber := portNumber.getD c.portNumber }
  let _ ← (LogFilter.choose vars c.logLevel).mapError .logging
  let fixture ← match file with
    | none => .ok Fixture.empty
    | some file => fixtureOf file
  return .listening c fixture (← c.address.mapError .configuration)

/--
Runs the command that arguments state. The file is the one that the command takes its fixture
from, if it takes one.
-/
def run (arguments : List String) (vars : Variables) (now : Instant)
    (file : String → Except String String) : Ending :=
  match Command.ofArguments? arguments with
  | none => .misused
  | some (.help topic) => .finished topic.text
  | some .version => .finished versionLine
  | some (.verify fixtures id asJson) =>
    match runVerify vars now (file fixtures) id asJson with
    | .ok output => .finished output
    | .error failure => .failed failure
  | some (.serve host portNumber fixtures) =>
    match runServe vars (fixtures.map file) host portNumber with
    | .ok ending => ending
    | .error failure => .failed failure

end Application

end Birthright
