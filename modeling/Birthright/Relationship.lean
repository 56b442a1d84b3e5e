import Birthright.Label

/-!
# Relationships of guardians to applicants

A form names the relationship by a label. Grandparents, siblings, uncles, aunts and first cousins
can be guardians, and each has checks of its own; for a father or mother there are none, since
parents are cited as parents.
-/

namespace Birthright

/-- A relationship that has a label of its own. -/
inductive Relationship where
  | father
  | mother
  | grandfatherPaternal
  | grandfatherMaternal
  | grandmotherPaternal
  | grandmotherMaternal
  | sibling
  | maternalUncleAunt
  | paternalUncleAunt
  | firstCousin
  deriving DecidableEq, Repr

/-- The checks that are made of a guardian. -/
inductive GuardianCheck where
  | grandparent
  | sibling
  | uncleAunt
  | firstCousin
  deriving DecidableEq, Repr

namespace GuardianCheck

/-- The name of a check. -/
def name : GuardianCheck → String
  | .grandparent => "Grandparent"
  | .sibling => "Sibling"
  | .uncleAunt => "UncleAunt"
  | .firstCousin => "FirstCousin"

end GuardianCheck

namespace Relationship

/-- All relationships. -/
def all : List Relationship :=
  [father, mother, grandfatherPaternal, grandfatherMaternal, grandmotherPaternal,
   grandmotherMaternal, sibling, maternalUncleAunt, paternalUncleAunt, firstCousin]

/-- The label of a relationship on a form. -/
def label : Relationship → String
  | .father => "Father"
  | .mother => "Mother"
  | .grandfatherPaternal => "Grand Father on Father's side"
  | .grandfatherMaternal => "Grand Father on Mother's side"
  | .grandmotherPaternal => "Grand Mother on Father's side"
  | .grandmotherMaternal => "Grand Mother on Mother's side"
  | .sibling => "Brother or Sister"
  | .maternalUncleAunt => "Maternal Uncle or Aunt"
  | .paternalUncleAunt => "Paternal Uncle or Aunt"
  | .firstCousin => "First Cousin"

/-- The relationship that a label names. -/
def ofLabel? (s : String) : Option Relationship :=
  let wanted := plainLabel s
  all.find? fun r => plainLabel r.label = wanted

/-- The checks of a guardian in a relationship. -/
def guardianCheck? : Relationship → Option GuardianCheck
  | .grandfatherPaternal | .grandfatherMaternal | .grandmotherPaternal | .grandmotherMaternal =>
    some .grandparent
  | .sibling => some .sibling
  | .maternalUncleAunt | .paternalUncleAunt => some .uncleAunt
  | .firstCousin => some .firstCousin
  | .father | .mother => none

/-- The name under which a relationship is stored. -/
def code : Relationship → String
  | .father => "FATHER"
  | .mother => "MOTHER"
  | .grandfatherPaternal => "GRANDFATHER_PATERNAL"
  | .grandfatherMaternal => "GRANDFATHER_MATERNAL"
  | .grandmotherPaternal => "GRANDMOTHER_PATERNAL"
  | .grandmotherMaternal => "GRANDMOTHER_MATERNAL"
  | .sibling => "SIBLING"
  | .maternalUncleAunt => "MATERNAL_UNCLE_AUNT"
  | .paternalUncleAunt => "PATERNAL_UNCLE_AUNT"
  | .firstCousin => "FIRST_COUSIN"

/-- A relationship by the name under which it is stored. -/
def ofCode? (s : String) : Option Relationship := all.find? (·.code = s)

/-- The value that is stored for a relationship. -/
def toJson (r : Relationship) : Json := .str r.code

/-- Reads a relationship from its stored form. -/
def ofWritten? (w : Json.Written) : Option Relationship := w.choice? ofCode?

end Relationship

/-- The checks of a guardian whose relationship is named by a label. -/
def GuardianCheck.ofLabel? (s : String) : Option GuardianCheck :=
  (Relationship.ofLabel? s).bind Relationship.guardianCheck?

/-- A parent who is cited on a form. -/
inductive ParentRole where
  | father
  | mother
  deriving DecidableEq, Repr

namespace ParentRole

/-- The role in which a parent's number is cited. -/
def label : ParentRole → String
  | .father => "FATHER"
  | .mother => "MOTHER"

/-- The role with a label. -/
def ofLabel? (s : String) : Option ParentRole := [father, mother].find? (·.label = s)

/-- The value that is stored for a role. -/
def toJson (r : ParentRole) : Json := .str r.label

/-- Reads a role from its stored form. -/
def ofWritten? (w : Json.Written) : Option ParentRole := w.choice? ofLabel?

end ParentRole

end Birthright
