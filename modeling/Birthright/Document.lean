import Birthright.Json.Text
import Birthright.Json.Written

/-!
# Registry documents

What the registry holds about a person: named fields with structured values.
-/

namespace Birthright

/-- The fields of a person in the registry. -/
structure Document where
  fields : Table String Json
  deriving Repr

namespace Document

/-- The document that a value stands for; only an object has fields. -/
def ofJson : Json → Document
  | .obj members => ⟨members⟩
  | _ => ⟨[]⟩

/-- The value that is stored for a document. -/
def toJson (d : Document) : Json := .obj d.fields

/-- Reads a document, which must be an object. -/
def ofWritten? (levels : Nat) (w : Json.Written) : Option Document :=
  match w with
  | .members _ => (w.value? levels).map ofJson
  | _ => none

/-- The value of a field. -/
def get? (d : Document) (name : String) : Option Json := Table.get? d.fields name

/-- The text of a field: a text itself, any other value in its compact form, and none for `null`. -/
def fieldText? (d : Document) (name : String) : Option String :=
  match d.get? name with
  | none => none
  | some .null => none
  | some (.str s) => some s
  | some v => some v.text

end Document

end Birthright
