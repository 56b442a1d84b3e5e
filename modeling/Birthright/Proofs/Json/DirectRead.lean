import Birthright.Lineage
import Birthright.Proofs.Json.RoundTrip

/-!
# Lineages read directly

A registry holds tribe and clan as lists of entries or as texts of such lists. A list is written as
a text before its first entry is read, so that both come to the same. Here it is shown that this is
what a direct look at the list gives, whatever texts and further entries it has.

* `firstValue?_text` — the text of an array says what the array says
* `lineage_read_directly` — lineages in the registry
-/

namespace Birthright

namespace Json

/-- A text, an integer or a truth value as a text. -/
def scalar? : Json → Option String
  | .str s => some s
  | .int n => some (toString n)
  | .bool b => some (toString b)
  | .null | .float _ | .arr _ | .obj _ => none

/-- The scalar that the first item of an array has under the name `value`, if it has one. -/
def firstScalar? : List Json → Option String
  | .obj members :: _ => (Table.get? members "value").bind scalar?
  | _ => none

theorem text_int (n : Int) : (Json.int n).text = toString n := by
  rw [Int.toString_eq_repr]
  cases n with
  | ofNat n =>
    show String.ofList (Nat.toDigits 10 n) = n.repr
    rw [Nat.repr_eq_ofList_toDigits]
  | negSucc n =>
    show String.ofList ('-' :: Nat.toDigits 10 (n + 1)) = "-" ++ (n + 1).repr
    rw [Nat.repr_eq_ofList_toDigits]
    simp

theorem text_bool (b : Bool) : (Json.bool b).text = toString b := by
  cases b <;> rfl

/-- What is under a key is in the table. -/
theorem mem_of_get? {members : List (String × Json)} {name : String} {v : Json}
    (h : Table.get? members name = some v) : (name, v) ∈ members := by
  induction members with
  | nil => cases h
  | cons m rest ih =>
    rw [Table.get?] at h
    split at h
    · next hname =>
      cases h
      exact List.mem_cons.mpr (.inl (by rw [← hname]))
    · exact List.mem_cons_of_mem _ (ih h)

/-- A member of an object is what its table has under the name. -/
theorem member?_obj (name : String) (members : List (String × Json)) :
    (Json.obj members).member? name = Table.get? members name := by
  induction members with
  | nil => rfl
  | cons m rest ih =>
    by_cases hname : m.1 = name
    · simp [member?, Table.get?, hname]
    · simpa [member?, Table.get?, hname] using ih

end Json

open Json

/-- **The text of an array says what the array says**: the scalar of its first item. -/
theorem firstValue?_text {items : List Json} (h : Plain deepest (.arr items)) :
    firstValue? (Json.arr items).text = firstScalar? items := by
  rw [firstValue?, h.ofText_text]
  cases items with
  | nil => rfl
  | cons entry rest =>
    cases h with
    | arr hitems =>
      cases hitems entry List.mem_cons_self with
      | @obj _ members hsorted hmembers =>
        simp only [member?_obj, firstScalar?]
        cases hvalue : Table.get? members "value" with
        | none => rfl
        | some v =>
          have hv := hmembers _ (mem_of_get? hvalue)
          cases hv with
          | int hlow hhigh => simp [scalar?, text_int]
          | bool b => simp [scalar?, text_bool]
          | _ => rfl
      | _ => rfl

/-- A document holds a value in a field, either as it is or as its text. -/
def Document.Holds (d : Document) (name : String) (v : Json) : Prop :=
  d.get? name = some v ∨ d.get? name = some (.str v.text)

theorem Document.Holds.fieldText? {d : Document} {name : String} {items : List Json}
    (h : d.Holds name (.arr items)) : d.fieldText? name = some (Json.arr items).text := by
  rcases h with h | h <;> rw [Document.fieldText?, h]

/--
**Lineages are read directly.** The text of an array without floating-point numbers, nested no
deeper than texts are read, gives the scalar of its first item; and so does a document that holds
this array for tribe or clan, be it as it is or as its text.
-/
theorem lineage_read_directly {items : List Json} (h : Plain deepest (.arr items)) :
    firstValue? (Json.arr items).text = firstScalar? items ∧ ∀ (label : String) (d : Document),
      (d.Holds "tribe" (.arr items) → (Lineage.ofDocument label d).tribe = firstScalar? items) ∧
      (d.Holds "clan" (.arr items) → (Lineage.ofDocument label d).clan = firstScalar? items) := by
  have htext := firstValue?_text h
  refine ⟨htext, fun label d => ⟨fun hd => ?_, fun hd => ?_⟩⟩
  · rw [Lineage.ofDocument, hd.fieldText?]
    exact htext
  · rw [Lineage.ofDocument, hd.fieldText?]
    exact htext

/-- Entries of which the first one has quotes, a backslash and control characters in its value. -/
def quotedEntries : List Json :=
  [.obj [("language", .str "eng"), ("value", .str "\"Acholi\"\\\n\x01")], .arr [.int (-3)], .null]

theorem plain_quotedEntries : Plain deepest (.arr quotedEntries) := by
  have hsorted : [("language", Json.str "eng"), ("value", .str "\"Acholi\"\\\n\x01")].Pairwise
      (·.1 < ·.1) := List.pairwise_pair.mpr (by decide)
  refine .arr (List.forall_mem_cons.mpr ⟨.obj hsorted ?_, List.forall_mem_cons.mpr ⟨.arr ?_, ?_⟩⟩)
  · exact List.forall_mem_cons.mpr ⟨.str _, List.forall_mem_singleton.mpr (.str _)⟩
  · exact List.forall_mem_singleton.mpr (.int (by decide) (by decide))
  · exact List.forall_mem_singleton.mpr .null

/-- A document that holds these entries as they are for the tribe and as a text for the clan. -/
def quotedDocument : Document where
  fields := [("clan", .str (Json.arr quotedEntries).text), ("tribe", .arr quotedEntries)]

theorem lineage_of_quotedDocument :
    firstValue? (Json.arr quotedEntries).text = some "\"Acholi\"\\\n\x01" ∧
      Lineage.ofDocument "" quotedDocument
        = ⟨"", some "\"Acholi\"\\\n\x01", some "\"Acholi\"\\\n\x01"⟩ := by
  obtain ⟨htext, hlineage⟩ := lineage_read_directly plain_quotedEntries
  obtain ⟨htribe, hclan⟩ := hlineage "" quotedDocument
  have htribe := htribe (.inl rfl)
  have hclan := hclan (.inr rfl)
  refine ⟨htext, ?_⟩
  show Lineage.mk "" _ _ = _
  rw [Lineage.mk.injEq]
  exact ⟨rfl, htribe, hclan⟩

end Birthright
