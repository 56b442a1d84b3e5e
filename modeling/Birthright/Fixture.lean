import Birthright.Collaborator.InMemory

/-!
# Fixtures

A fixture is a text from which collaborators in memory are filled: the forms of registrations, the
documents of the registry, and how often numbers have been cited so far. Each of the three parts
may be left out.
-/

namespace Birthright

/-- What collaborators in memory know at first. -/
structure Fixture where
  registrations : Table RegistrationId (Table String String)
  identities : Table Nin Document
  usage : Table Nin UInt32

namespace Fixture

/-- A fixture with nothing in it. -/
def empty : Fixture := ⟨[], [], []⟩

/-- The names of a fixture's parts. -/
def partNames : List String := ["registrations", "identities", "nin_usage"]

/-- How deep arrays and objects may be nested in a document, which is within two objects itself. -/
def documentDepth : Nat := Json.deepest - 2

/-- Reads a part with a value for every key; one that is left out has none. -/
def part? {κ α : Type} (key : String → κ) (read : Json.Written → Option α) :
    Option Json.Written → Option (Table κ α)
  | none => some []
  | some w => (w.table? read).map (·.map fun (k, v) => (key k, v))

open Json.Written in
/-- Reads a fixture from its stored form. -/
def ofWritten? (w : Json.Written) : Option Fixture := do
  match ← w.parts? partNames 0 with
  | [registrations, identities, usage] =>
    return { registrations := ← part? RegistrationId.mk (table? string?) registrations
             identities := ← part? Nin.mk (Document.ofWritten? documentDepth) identities
             usage := ← part? Nin.mk word? usage }
  | _ => none

/-- Reads a whole text as a fixture. -/
def ofText? (s : String) : Option Fixture := Json.Written.ofText? s >>= ofWritten?

/--
Collaborators that know what is in the fixture, with a limit for citations, and that note the events
they make known.
-/
def memory (f : Fixture) (limit : UInt32) : Memory :=
  { Memory.fresh f.registrations f.identities (.ledger ⟨limit, f.usage⟩) with notesEvents := true }

example : (ofText? "[\x7b\x7d, \x7b\x7d]").map (fun f => f.identities.length) = some 0 := by
  decide +kernel

end Fixture

end Birthright
