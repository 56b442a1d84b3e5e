import Birthright.Applicant
import Birthright.Collaborator.Failure
import Birthright.Document
import Birthright.Log
import Birthright.Verification.Audit

/-!
# Calls to collaborators

The stage decides by asking: the packet store for the fields of a form, the registry for documents,
the usage guard for numbers that are cited too often, and the repository for earlier outcomes. A
`Call` is one such question or order, and `Call.Answer` says what may come back.

An `Inquiry` is a course of calls, in which each call may depend on the answers before it. It is a
tree and not a run: what it comes to is said by `Inquiry.run` for any collaborators. The journal of
a run lists the calls and the events in their order.
-/

namespace Birthright

/-- A question or an order to a collaborator. -/
inductive Call where
  /-- The named fields of a registration's form. -/
  | fields (id : RegistrationId) (names : List String)
  /-- The registry's document about a person. -/
  | document (nin : Nin)
  /-- Whether a number is cited more often than allowed. -/
  | isOverused (nin : Nin) (role : String)
  /-- Counts one more citation of a number. -/
  | cite (nin : Nin) (role : String)
  /-- The stored outcome of a registration. -/
  | fetch (id : RegistrationId)
  /-- Stores an outcome in place of an earlier one. -/
  | store (outcome : Outcome)
  /-- Makes an event known. -/
  | publish (event : AuditEvent)
  deriving DecidableEq

/-- What may come back from a call. -/
abbrev Call.Answer : Call → Type
  | .fields .. => Except FieldFailure (Table String String)
  | .document .. => Except LookupFailure (Option Document)
  | .isOverused .. => Except UsageFailure Bool
  | .cite .. => Except UsageFailure Unit
  | .fetch .. => Except RecordFailure (Option Outcome)
  | .store .. => Except RecordFailure Unit
  | .publish .. => Except AuditFailure Unit

/-- A course of calls that ends with a result. -/
inductive Inquiry (α : Type) where
  | done (result : α)
  | note (event : Event) (next : Inquiry α)
  | ask (call : Call) (next : call.Answer → Inquiry α)

namespace Inquiry

variable {α β σ : Type}

/-- Goes on with the result of an inquiry. -/
def bind : Inquiry α → (α → Inquiry β) → Inquiry β
  | .done a, f => f a
  | .note e next, f => .note e (next.bind f)
  | .ask c next, f => .ask c fun answer => (next answer).bind f

/-- An inquiry goes on with the result of another one. -/
instance : Monad Inquiry where
  pure := done
  bind := bind

/-- Notes events one after the other. -/
def notes : List Event → Inquiry Unit
  | [] => pure ()
  | e :: rest => .note e (notes rest)

/-- Notes the events that came with a result. -/
def noted (r : List Event × α) : Inquiry α := do
  notes r.1
  return r.2

/-! ## The calls -/

/-- Asks for the named fields of a registration. -/
def fields (id : RegistrationId) (names : List String) :
    Inquiry (Except FieldFailure (Table String String)) := ask (.fields id names) pure

/-- Asks for the registry's document about a person. -/
def document (nin : Nin) : Inquiry (Except LookupFailure (Option Document)) :=
  ask (.document nin) pure

/-- Asks whether a number is overused. -/
def isOverused (nin : Nin) (role : String) : Inquiry (Except UsageFailure Bool) :=
  ask (.isOverused nin role) pure

/-- Has one more citation counted. -/
def cite (nin : Nin) (role : String) : Inquiry (Except UsageFailure Unit) :=
  ask (.cite nin role) pure

/-- Asks for the stored outcome of a registration. -/
def fetch (id : RegistrationId) : Inquiry (Except RecordFailure (Option Outcome)) :=
  ask (.fetch id) pure

/-- Has an outcome stored. -/
def store (outcome : Outcome) : Inquiry (Except RecordFailure Unit) := ask (.store outcome) pure

/-- Has an event made known. -/
def publish (event : AuditEvent) : Inquiry (Except AuditFailure Unit) := ask (.publish event) pure

end Inquiry

/-! ## Runs -/

/-- A line of the journal of a run. -/
inductive Entry where
  | call (c : Call)
  | event (e : Event)
  deriving DecidableEq

/-- How collaborators answer calls: what they note meanwhile, and the state they are then in. -/
structure Collaborators (σ : Type) where
  answer : (c : Call) → σ → c.Answer × List Event × σ

/-- What a course of calls came to. -/
structure Run (σ α : Type) where
  result : α
  journal : List Entry
  state : σ

namespace Run

variable {σ α β : Type}

/-- The calls of a run in their order. -/
def calls (r : Run σ α) : List Call :=
  r.journal.filterMap fun
    | .call c => some c
    | .event _ => none

/-- The events of a run in their order. -/
def events (r : Run σ α) : List Event :=
  r.journal.filterMap fun
    | .event e => some e
    | .call _ => none

/-- Puts lines in front of the journal. -/
def after (lines : List Entry) (r : Run σ α) : Run σ α := { r with journal := lines ++ r.journal }

end Run

/-- The run of an inquiry. -/
def Inquiry.run {σ α : Type} (w : Collaborators σ) : Inquiry α → σ → Run σ α
  | .done a, s => ⟨a, [], s⟩
  | .note e next, s => (next.run w s).after [.event e]
  | .ask c next, s =>
    match w.answer c s with
    | (answer, events, s') => ((next answer).run w s').after (.call c :: events.map .event)

/-- **A run of an inquiry that goes on** is a run of its beginning and then one of the rest. -/
theorem Inquiry.run_bind {σ α β : Type} (w : Collaborators σ) (x : Inquiry α)
    (f : α → Inquiry β) (s : σ) :
    (x >>= f).run w s
      = ((f (x.run w s).result).run w (x.run w s).state).after (x.run w s).journal := by
  show (x.bind f).run w s = _
  induction x generalizing s with
  | done a => simp [bind, run, Run.after]
  | note e next ih => simp [bind, run, ih, Run.after]
  | ask c next ih => simp [bind, run, ih, Run.after]

end Birthright
