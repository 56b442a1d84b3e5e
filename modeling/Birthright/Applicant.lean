import Birthright.Claim
import Birthright.Identity
import Birthright.Relationship

/-!
# Applicants

What a registration says about its applicant. The packet store holds the fields of the form as
texts; an `Applicant` is one snapshot of them, in which choices are decoded and blank numbers are
left out.
-/

namespace Birthright

/-- The fields of a form that bear on citizenship by birth. -/
inductive FormField where
  | tribe
  | citizenshipType
  | dateOfBirth
  | clan
  | fatherNin
  | fatherTribe
  | fatherClan
  | motherNin
  | motherTribe
  | motherClan
  | guardianNin
  | guardianRelationship
  | guardianTribe
  | guardianClan
  deriving DecidableEq, Repr

namespace FormField

/-- The name of a field in the packet store. -/
def name : FormField → String
  | .tribe => "applicantTribe"
  | .citizenshipType => "applicantCitizenshipType"
  | .dateOfBirth => "dateOfBirth"
  | .clan => "applicantClan"
  | .fatherNin => "fatherNIN"
  | .fatherTribe => "fatherTribe"
  | .fatherClan => "fatherClan"
  | .motherNin => "motherNIN"
  | .motherTribe => "motherTribe"
  | .motherClan => "motherClan"
  | .guardianNin => "guardianNIN"
  | .guardianRelationship => "guardianRelationToApplicant"
  | .guardianTribe => "guardianTribeForm"
  | .guardianClan => "guardianClanForm"

/-- All fields, in the order in which they are asked for. -/
def all : List FormField :=
  [tribe, citizenshipType, dateOfBirth, clan, fatherNin, fatherTribe, fatherClan, motherNin,
   motherTribe, motherClan, guardianNin, guardianRelationship, guardianTribe, guardianClan]

/-- The names of all fields. -/
def names : List String := all.map name

end FormField

/-- The snapshot of a form on which a decision is based. -/
structure Applicant where
  registrationId : RegistrationId
  claim : Claim
  dateOfBirth : Option String
  tribe : Option String
  clan : Option String
  fatherNin : Option Nin
  motherNin : Option Nin
  guardianNin : Option Nin
  guardianRelationship : Option String
  guardianTribe : Option String
  guardianClan : Option String
  deriving DecidableEq, Repr

namespace Applicant

/-- The applicant of a registration with the given fields. -/
def ofFields (id : RegistrationId) (fields : Table String String) : Applicant :=
  let field (f : FormField) := Table.get? fields f.name
  { registrationId := id
    claim := .ofLabel ((field .citizenshipType).bind firstValue?)
    dateOfBirth := field .dateOfBirth
    tribe := field .tribe
    clan := field .clan
    fatherNin := (field .fatherNin).bind Nin.ofText?
    motherNin := (field .motherNin).bind Nin.ofText?
    guardianNin := (field .guardianNin).bind Nin.ofText?
    guardianRelationship := field .guardianRelationship
    guardianTribe := field .guardianTribe
    guardianClan := field .guardianClan }

/-- The parents whose numbers are cited, the father first. -/
def parents (a : Applicant) : List (ParentRole × Nin) :=
  (a.fatherNin.map (ParentRole.father, ·)).toList ++ (a.motherNin.map (ParentRole.mother, ·)).toList

/-- Whether the number of a parent is cited. -/
def hasParent (a : Applicant) : Bool := a.fatherNin.isSome || a.motherNin.isSome

/-- The label of the guardian's relationship. -/
def relationshipLabel? (a : Applicant) : Option String := a.guardianRelationship.bind firstValue?

/--
The numbers that the application cites, each in its role: those of the parents, or else that of
the guardian if the relationship can be decoded.
-/
def citations (a : Applicant) : List (Nin × String) :=
  if a.hasParent then a.parents.map fun (role, nin) => (nin, role.label)
  else
    match a.guardianNin, a.relationshipLabel? with
    | some nin, some label => [(nin, label)]
    | _, _ => []

/-! ## Stored form -/

/-- The names of an applicant's parts in the stored form. -/
def partNames : List String :=
  ["registration_id", "citizenship", "date_of_birth", "tribe", "clan", "father_nin", "mother_nin",
   "guardian_nin", "guardian_relationship", "guardian_tribe_on_form", "guardian_clan_on_form"]

/-- The value that is stored for an applicant. -/
def toJson (a : Applicant) : Json :=
  let nin (n : Option Nin) := Json.ofText? (n.map Nin.text)
  .obj <| partNames.zip
    [a.registrationId.toJson, a.claim.toJson, .ofText? a.dateOfBirth, .ofText? a.tribe,
     .ofText? a.clan, nin a.fatherNin, nin a.motherNin, nin a.guardianNin,
     .ofText? a.guardianRelationship, .ofText? a.guardianTribe, .ofText? a.guardianClan]

open Json.Written in
/-- Reads an applicant from its stored form. -/
def ofWritten? (w : Json.Written) : Option Applicant := do
  match ← w.parts? partNames partNames.length with
  | [id, claim, born, tribe, clan, father, mother, guardian, relationship, gTribe, gClan] =>
    return { registrationId := ← required? RegistrationId.ofWritten? id
             claim := ← required? Claim.ofWritten? claim
             dateOfBirth := ← optional? string? born
             tribe := ← optional? string? tribe
             clan := ← optional? string? clan
             fatherNin := ← optional? Nin.ofWritten? father
             motherNin := ← optional? Nin.ofWritten? mother
             guardianNin := ← optional? Nin.ofWritten? guardian
             guardianRelationship := ← optional? string? relationship
             guardianTribe := ← optional? string? gTribe
             guardianClan := ← optional? string? gClan }
  | _ => none

end Applicant

end Birthright
