import Birthright.Http.Message
import Birthright.Http.Path
import Birthright.Verification.Service

/-!
# Resources

Paths name resources. The stage has one resource for every registration: a request to `POST`
processes the registration, and a request to `GET` looks its outcome up. An application around the
stage also tells about itself: that it is alive, whether it is ready, and what it has measured.

A request for the head of a resource is handled like a request to `GET`, and the content of the
answer is left out. Whether a path names a resource is decided before the method is looked at, and
both before a registration id is decoded.
-/

namespace Birthright.Http

open Calendar (Instant)

/-- What a path can name. -/
inductive Resource where
  /-- The verification of a registration, whose id is still to be decoded. -/
  | verification (segment : List Char)
  /-- Whether the application is alive. -/
  | health
  /-- Whether the application is ready. -/
  | readiness
  /-- What the application has measured. -/
  | metrics
  deriving DecidableEq, Repr

namespace Resource

/-- The name of the variable segment in the route of verifications. -/
def idName : String := "registration_id"

/-- The segments of the route of verifications before and after the registration id. -/
def routeEnds : List String × List String :=
  (["", "api", "v1", "registrations"], ["citizenship-verification"])

/-- The route of verifications, in which a colon marks the variable segment. -/
def verificationRoute : String :=
  "/".intercalate (routeEnds.1 ++ (":" ++ idName) :: routeEnds.2)

/-- The verification that a path names. -/
def verification? (path : List (List Char)) : Option Resource :=
  match path.drop routeEnds.1.length with
  | id :: rest =>
    if path.take routeEnds.1.length = routeEnds.1.map String.toList
        ∧ rest = routeEnds.2.map String.toList then
      some (.verification id)
    else none
  | [] => none

/-- The resource that a path names in an application around the stage. -/
def ofPath? (path : List (List Char)) : Option Resource :=
  if path = [[], "health".toList] then some .health
  else if path = [[], "ready".toList] then some .readiness
  else if path = [[], "metrics".toList] then some .metrics
  else verification? path

/-- Whether a resource allows a method. -/
def allows : Resource → Method → Bool
  | _, .get | _, .head => true
  | .verification _, .post => true
  | _, _ => false

end Resource

/-! ## Answers -/

/-- An answer that says what went wrong. -/
def failureResponse (status : Nat) (message : String) : Response :=
  .json status (.obj [("error", .str message)])

/-- The answer when the registration id in a path is no text. -/
def idUnreadable : Response :=
  .text 400 "text/plain; charset=utf-8"
    ("Invalid URL: Invalid UTF-8 in `" ++ Resource.idName ++ "`")

/-- The answer after a registration was processed. -/
def processedResponse (id : RegistrationId) : Except ServiceFailure Outcome → Response
  | .ok o => .json 200 o.view.toJson
  | .error (.evaluation e) =>
    if e.isRetryable then
      .json 503 (.obj [("error", .str e.message), ("registration_id", id.toJson),
        ("status", .str Status.failed.label)])
    else failureResponse 500 e.message
  | .error e => failureResponse 500 e.message

/-- The answer after an outcome was looked up. -/
def lookedUpResponse (id : RegistrationId) : Except ServiceFailure Outcome → Response
  | .ok o => .json 200 o.view.toJson
  | .error (.record .notFound) =>
    .json 404 (.obj [("error", .str "registration has not been verified"),
      ("registration_id", id.toJson)])
  | .error e => failureResponse 500 e.message

/-- Handles a request about a registration. -/
def answerVerification (r : Rules) (now : Instant) (method : Method) (segment : List Char) :
    Inquiry Response :=
  match segmentText? segment with
  | none => return idUnreadable
  | some id =>
    match method with
    | .post => return processedResponse ⟨id⟩ (← process r now ⟨id⟩)
    | _ => return lookedUpResponse ⟨id⟩ (← lookUp ⟨id⟩)

/-- What an application says about itself. -/
def statusResponse (ready : Bool) : Resource → Response
  | .health => .json 200 (.obj [("status", .str "ok")])
  | .readiness =>
    if ready then .json 200 (.obj [("status", .str "ready")])
    else .json 503 (.obj [("status", .str "initializing")])
  | .metrics => .text 200 "text/plain; version=0.0.4" ""
  | .verification _ => .notFound

/-- Handles a request for what a path names, if it names anything. -/
def answerResource (r : Rules) (now : Instant) (ready : Bool) (method : Method) :
    Option Resource → Inquiry Response
  | none => return .notFound
  | some resource => do
    if !resource.allows method then return .methodNotAllowed
    else
      let response ← match resource with
        | .verification segment => answerVerification r now method segment
        | other => pure (statusResponse ready other)
      return if method = .head then response.headOnly else response

/-- The stage's answer to a request. -/
def answerStage (r : Rules) (now : Instant) (method : Method) (target : String) :
    Inquiry Response :=
  answerResource r now false method (Resource.verification? (segments target))

/-- An application's answer to a request; it may not be ready yet. -/
def answerApplication (r : Rules) (now : Instant) (ready : Bool) (method : Method)
    (target : String) : Inquiry Response :=
  answerResource r now ready method (Resource.ofPath? (segments target))

example : Resource.verificationRoute
    = "/api/v1/registrations/:registration_id/citizenship-verification" := by decide +kernel

end Birthright.Http
