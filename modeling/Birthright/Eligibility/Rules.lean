import Birthright.Calendar.AgeGap
import Birthright.Calendar.Pattern
import Birthright.Json.Text
import Birthright.Json.Written

/-!
# Rules of eligibility

The parameters of the rules: how dates of birth are written, how much older parents and
grandparents have to be, and whether the lineage of siblings, uncles and aunts decides.
-/

namespace Birthright

open Calendar (Date)

/-- The parameters of the rules. -/
structure Rules where
  /-- The pattern of dates of birth, on forms and in the registry. -/
  datePattern : String
  /-- How many years older than the applicant a parent has to be. -/
  parentGap : UInt32
  /-- How many years older than the applicant a grandparent has to be. -/
  grandparentGap : UInt32
  /-- Whether siblings, uncles and aunts must agree with the form in their lineage. -/
  collateralLineageDecides : Bool
  deriving DecidableEq, Repr

namespace Rules

/-- The rules that hold unless others are set. -/
def standard : Rules := ⟨"%Y/%m/%d", 15, 20, false⟩

/-- Reads a date of birth; blanks around it do no harm. -/
def date? (r : Rules) (raw : String) : Option Date :=
  Calendar.dateOf? r.datePattern (Text.trimmed raw)

/-! ## Stored form -/

/-- The names of the parameters in the stored form. -/
def partNames : List String :=
  ["date_format", "parent_min_age_gap", "grandparent_min_age_gap",
   "enforce_collateral_concordance"]

/-- The value that is stored for the rules. -/
def toJson (r : Rules) : Json :=
  .obj <| partNames.zip
    [.str r.datePattern, .ofNat r.parentGap.toNat, .ofNat r.grandparentGap.toNat,
     .bool r.collateralLineageDecides]

open Json.Written in
/-- Reads the rules from their stored form. -/
def ofWritten? (w : Json.Written) : Option Rules := do
  match ← w.parts? partNames partNames.length with
  | [pattern, parent, grandparent, decides] =>
    return { datePattern := ← required? string? pattern
             parentGap := ← required? word? parent
             grandparentGap := ← required? word? grandparent
             collateralLineageDecides := ← required? bool? decides }
  | _ => none

end Rules

end Birthright
