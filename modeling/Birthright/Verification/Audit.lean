import Birthright.Log
import Birthright.Verification.Outcome

/-!
# Audit events

Every stored outcome is made known by one event. A registration that passed is an update in the
course of business, and any other is an exception.
-/

namespace Birthright

/-- What is made known about an outcome. -/
structure AuditEvent where
  eventId : String
  eventName : String
  eventType : String
  moduleId : String
  moduleName : String
  registrationId : RegistrationId
  description : String
  deriving DecidableEq, Repr

namespace AuditEvent

/-- The name of this stage in audit events. -/
def stageName : String := "CITIZENSHIP_VERIFICATION"

/-- The event of an outcome. -/
def ofOutcome (o : Outcome) : AuditEvent :=
  let reason := (o.verdict.map Verdict.reason).getD .processingError
  { eventId := if o.isValid then "RPR_402" else "RPR_405"
    eventName := if o.isValid then "UPDATE" else "EXCEPTION"
    eventType := if o.isValid then "BUSINESS" else "SYSTEM"
    moduleId := reason.code
    moduleName := stageName
    registrationId := o.registrationId
    description := o.rationale ++ " -- " ++ o.registrationId.text }

/-- What is noted when the event is made known. -/
def notice (e : AuditEvent) : Event :=
  ⟨.info, "audit event published",
    [("event_id", e.eventId), ("event_type", e.eventType), ("module_id", e.moduleId),
     ("registration_id", e.registrationId.text)]⟩

/-! ## Stored form -/

/-- The names of an event's parts in the stored form. -/
def partNames : List String :=
  ["event_id", "event_name", "event_type", "module_id", "module_name", "registration_id",
   "description"]

/-- The value that is stored for an event. -/
def toJson (e : AuditEvent) : Json :=
  .obj <| partNames.zip
    [.str e.eventId, .str e.eventName, .str e.eventType, .str e.moduleId, .str e.moduleName,
     e.registrationId.toJson, .str e.description]

open Json.Written in
/-- Reads an event from its stored form. -/
def ofWritten? (w : Json.Written) : Option AuditEvent := do
  match ← w.parts? partNames partNames.length with
  | [eventId, eventName, eventType, moduleId, moduleName, id, description] =>
    return { eventId := ← required? string? eventId
             eventName := ← required? string? eventName
             eventType := ← required? string? eventType
             moduleId := ← required? string? moduleId
             moduleName := ← required? string? moduleName
             registrationId := ← required? RegistrationId.ofWritten? id
             description := ← required? string? description }
  | _ => none

end AuditEvent

end Birthright
