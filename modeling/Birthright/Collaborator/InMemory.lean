import Birthright.Collaborator.Inquiry
import Birthright.Collaborator.Ledger

/-!
# Collaborators in memory

Collaborators that keep all they know in tables. Single calls can be put out of order: an `Outage`
makes the calls of one kind fail, either all of them or those about one number.
-/

namespace Birthright

/-- The kinds of calls that can be put out of order. -/
inductive CallKind where
  | fields
  | document
  | isOverused
  | cite
  | fetch
  | store
  | publish
  deriving DecidableEq, Repr

/-- How a call fails; not every failure exists for every kind of call. -/
inductive Fault where
  | unavailable (cause : String)
  | timedOut
  | notFound
  deriving DecidableEq, Repr

/-- Calls that fail: those of one kind, about one number if one is given. -/
structure Outage where
  kind : CallKind
  nin : Option Nin
  fault : Fault
  deriving DecidableEq, Repr

namespace Outage

/-- Whether an outage is about the calls of a kind and a number. -/
def isAbout (o : Outage) (kind : CallKind) (nin : Option Nin) : Bool := o.kind = kind && o.nin = nin

/-- Ends the outage of the calls of a kind and a number. -/
def clear (os : List Outage) (kind : CallKind) (nin : Option Nin) : List Outage :=
  os.filter (!·.isAbout kind nin)

/-- Begins an outage; it takes the place of one about the same calls. -/
def set (os : List Outage) (o : Outage) : List Outage := o :: clear os o.kind o.nin

/-- How a call fails: an outage about its number goes before one about all numbers. -/
def fault? (os : List Outage) (kind : CallKind) (nin : Option Nin) : Option Fault :=
  (os.find? (·.isAbout kind nin) <|> os.find? (·.isAbout kind none)).map Outage.fault

end Outage

/-- Who says whether a number is overused: a ledger, or a list that never changes. -/
inductive UsageGuard where
  | ledger (l : Ledger)
  | listed (overused : List Nin)
  deriving Repr

/-- All that the collaborators know, and whether they note the events that they make known. -/
structure Memory where
  packets : Table RegistrationId (Table String String)
  registry : Table Nin Document
  usage : UsageGuard
  outcomes : Table RegistrationId Outcome
  published : List AuditEvent
  outages : List Outage
  notesEvents : Bool

namespace Memory

/-- The named ones among the fields of a registration; an unknown registration has none. -/
def fieldsOf (m : Memory) (id : RegistrationId) (names : List String) : Table String String :=
  ((Table.get? m.packets id).getD []).filter (·.1 ∈ names)

/-- How often a number was cited, if citations are counted. -/
def count? (m : Memory) (nin : Nin) : Option UInt32 :=
  match m.usage with
  | .ledger l => some (l.count nin)
  | .listed _ => none

/-- Whether a number is overused. -/
def isOverused (m : Memory) (nin : Nin) : Bool :=
  match m.usage with
  | .ledger l => l.isOverused nin
  | .listed overused => nin ∈ overused

/-- Counts a citation; also what is noted about it. -/
def cite (m : Memory) (nin : Nin) (role : String) : List Event × Memory :=
  match m.usage with
  | .ledger l => ([l.citedEvent nin role], { m with usage := .ledger (l.cite nin) })
  | .listed _ => ([], m)

/-- What is noted about an event before it is kept. -/
def notices (m : Memory) (e : AuditEvent) : List Event := if m.notesEvents then [e.notice] else []

/-- What a fault of the packet store is. -/
def fieldFailure : Fault → FieldFailure
  | .unavailable cause => .unavailable cause
  | .timedOut => .timedOut
  | .notFound => .unavailable ""

/-- What a fault of the repository is. -/
def recordFailure : Fault → RecordFailure
  | .unavailable cause => .unavailable cause
  | .timedOut => .unavailable ""
  | .notFound => .notFound

/-- What a fault of the other collaborators says. -/
def cause : Fault → String
  | .unavailable cause => cause
  | .timedOut | .notFound => ""

/-- How the collaborators answer. -/
def answer (c : Call) (m : Memory) : c.Answer × List Event × Memory :=
  match c with
  | .fields id names =>
    match Outage.fault? m.outages .fields none with
    | some f => (.error (fieldFailure f), [], m)
    | none => (.ok (m.fieldsOf id names), [], m)
  | .document nin =>
    match Outage.fault? m.outages .document (some nin) with
    | some f => (.error (.unavailable (cause f)), [], m)
    | none => (.ok (Table.get? m.registry nin), [], m)
  | .isOverused nin _ =>
    match Outage.fault? m.outages .isOverused (some nin) with
    | some f => (.error (.unavailable (cause f)), [], m)
    | none => (.ok (m.isOverused nin), [], m)
  | .cite nin role =>
    match Outage.fault? m.outages .cite (some nin) with
    | some f => (.error (.unavailable (cause f)), [], m)
    | none =>
      let (events, m) := m.cite nin role
      (.ok (), events, m)
  | .fetch id =>
    match Outage.fault? m.outages .fetch none with
    | some f => (.error (recordFailure f), [], m)
    | none => (.ok (Table.get? m.outcomes id), [], m)
  | .store o =>
    match Outage.fault? m.outages .store none with
    | some f => (.error (recordFailure f), [], m)
    | none => (.ok (), [], { m with outcomes := Table.insert m.outcomes o.registrationId o })
  | .publish e =>
    -- The event is noted before it is kept, hence also where it cannot be kept.
    match Outage.fault? m.outages .publish none with
    | some f => (.error (.transport (cause f)), m.notices e, m)
    | none => (.ok (), m.notices e, { m with published := m.published ++ [e] })

/-- The collaborators that answer from memory. -/
def collaborators : Collaborators Memory := ⟨answer⟩

/-- A memory without outcomes, events and outages, in which events are kept but not noted. -/
def fresh (packets : Table RegistrationId (Table String String)) (registry : Table Nin Document)
    (usage : UsageGuard) : Memory := ⟨packets, registry, usage, [], [], [], false⟩

end Memory

/-- Runs an inquiry with the collaborators in memory. -/
def Inquiry.runIn {α : Type} (x : Inquiry α) (m : Memory) : Run Memory α :=
  x.run Memory.collaborators m

end Birthright
