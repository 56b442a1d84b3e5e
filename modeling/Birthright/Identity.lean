import Birthright.Json.Written
import Birthright.Text.Blank

/-!
# Registrations and national identity numbers

A registration is known by its id, a person in the registry by a national identity number. Both are
texts without a form of their own. A number that leaves the system is masked.
-/

namespace Birthright

/-- The id of a registration. -/
structure RegistrationId where
  text : String
  deriving DecidableEq, Repr

namespace RegistrationId

/-- Ids are ordered like their texts. -/
instance : LT RegistrationId := ⟨fun a b => a.text < b.text⟩

instance : DecidableLT RegistrationId := fun a b => inferInstanceAs (Decidable (a.text < b.text))

/-- The value that is stored for a registration id. -/
def toJson (id : RegistrationId) : Json := .str id.text

/-- Reads a registration id from its stored form. -/
def ofWritten? (w : Json.Written) : Option RegistrationId := w.string?.map (⟨·⟩)

end RegistrationId

/-- A national identity number. -/
structure Nin where
  text : String
  deriving DecidableEq, Repr

namespace Nin

/-- Numbers are ordered like their texts. -/
instance : LT Nin := ⟨fun a b => a.text < b.text⟩

instance : DecidableLT Nin := fun a b => inferInstanceAs (Decidable (a.text < b.text))

/-- The number in a text, without the blanks around it; blanks alone are no number. -/
def ofText? (raw : String) : Option Nin :=
  match Text.trim raw.toList with
  | [] => none
  | s => some ⟨String.ofList s⟩

/-- The number as it may be shown: its last four characters after four stars. -/
def masked (n : Nin) : String :=
  let s := n.text.toList
  String.ofList ("****".toList ++ s.drop (s.length - 4))

/-- The value that is stored for a number. -/
def toJson (n : Nin) : Json := .str n.text

/-- Reads a number from its stored form. -/
def ofWritten? (w : Json.Written) : Option Nin := w.string?.map (⟨·⟩)

example : (ofText? " CM12345678ABCD ").map masked = some "****ABCD" := by decide

end Nin

end Birthright
