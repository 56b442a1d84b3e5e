import Birthright.Label

/-!
# Citizenship claims

The one claim that this stage decides about is citizenship by birth.
-/

namespace Birthright

/-- On what ground an applicant claims citizenship. -/
inductive Claim where
  | byBirth
  | other
  deriving DecidableEq, Repr

namespace Claim

/-- The labels that claim citizenship by birth. -/
def byBirthLabels : List String := ["birth", "by birth", "by_birth"]

/-- The claim that a label makes. -/
def ofLabel (label : Option String) : Claim :=
  match label with
  | some s => if byBirthLabels.any (·.toList = plainLabel s) then .byBirth else .other
  | none => .other

/-- The name under which a claim is stored. -/
def code : Claim → String
  | .byBirth => "BY_BIRTH"
  | .other => "OTHER"

/-- A claim by the name under which it is stored. -/
def ofCode? (s : String) : Option Claim := [byBirth, other].find? (·.code = s)

/-- The value that is stored for a claim. -/
def toJson (c : Claim) : Json := .str c.code

/-- Reads a claim from its stored form. -/
def ofWritten? (w : Json.Written) : Option Claim := w.choice? ofCode?

end Claim

end Birthright
