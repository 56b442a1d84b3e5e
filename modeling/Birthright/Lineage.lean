import Birthright.Document
import Birthright.Label
import Birthright.Text.Quoted

/-!
# Lineage

Tribe and clan of a person, and the comparison of two persons by them. A lineage agrees with
another when both tribes and both clans are known and are the same but for case.
-/

namespace Birthright

/-- Tribe and clan of a person; the label says who it is. -/
structure Lineage where
  label : String
  tribe : Option String
  clan : Option String
  deriving DecidableEq, Repr

/-- The first part in which two lineages differ. -/
inductive Mismatch where
  | tribe
  | clan
  deriving DecidableEq, Repr

namespace Mismatch

/-- The name of the part. -/
def name : Mismatch → String
  | .tribe => "Tribe"
  | .clan => "Clan"

end Mismatch

namespace Lineage

/-- The lineage of a person whose tribe and clan are given as choices on a form. -/
def ofForm (label : String) (tribe clan : Option String) : Lineage :=
  ⟨label, tribe.bind firstValue?, clan.bind firstValue?⟩

/-- The registry's names for tribe and clan. -/
def registryFields : List String := ["tribe", "clan"]

/-- The lineage of a person in the registry. -/
def ofDocument (label : String) (d : Document) : Lineage :=
  ofForm label (d.fieldText? "tribe") (d.fieldText? "clan")

/-- Whether both texts are known and are the same in lower case. -/
def sameText : Option String → Option String → Bool
  | some a, some b => Text.lower a.toList = Text.lower b.toList
  | _, _ => false

/-- Where two lineages differ; tribes are compared before clans. -/
def mismatch? (a b : Lineage) : Option Mismatch :=
  if !sameText a.tribe b.tribe then some .tribe
  else if !sameText a.clan b.clan then some .clan
  else none

/-! ## Stored form -/

/-- The names of a lineage's parts in the stored form. -/
def partNames : List String := ["label", "tribe", "clan"]

/-- The value that is stored for a lineage. -/
def toJson (l : Lineage) : Json :=
  .obj (partNames.zip [.str l.label, .ofText? l.tribe, .ofText? l.clan])

open Json.Written in
/-- Reads a lineage from its stored form. -/
def ofWritten? (w : Json.Written) : Option Lineage := do
  match ← w.parts? partNames partNames.length with
  | [label, tribe, clan] =>
    return { label := ← required? string? label
             tribe := ← optional? string? tribe
             clan := ← optional? string? clan }
  | _ => none

/-- The text of a lineage in a log. -/
def logText (l : Lineage) : String :=
  let quoted (s : String) := String.ofList (Text.quoted s.toList)
  let part : Option String → String
    | some s => "Some(" ++ quoted s ++ ")"
    | none => "None"
  "PersonDemographic \x7b label: " ++ quoted l.label ++ ", tribe: " ++ part l.tribe ++ ", clan: "
    ++ part l.clan ++ " \x7d"

end Lineage

end Birthright
