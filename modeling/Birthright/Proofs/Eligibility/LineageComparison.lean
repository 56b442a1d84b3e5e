import Birthright.Proofs.Eligibility.Acceptance
import Birthright.Proofs.Text.LowerCase

/-!
# Lineages compared

Whether two lineages agree is a comparison of texts in lower case. It is the same from both sides
and carries over, but a lineage agrees with itself only if its tribe and its clan are known. In
which case the texts are written makes no difference: neither for the ASCII letters nor when a text
is replaced by its form in lower case, also where a sigma stands at the end of a word.

* `Text.Respelled.lower_eq` — texts that are the same but for case
* `lineages_compared` — the laws of the comparison
-/

namespace Birthright

/-- A text is written in lower case, or some of its ASCII letters in the other case. -/
inductive Text.Respelled : String → String → Prop where
  | lowered (s : String) : Respelled s (Text.lowered s)
  | recased {s t : String} (h : s.toList.map Char.toLower = t.toList.map Char.toLower) :
    Respelled s t

/-- **The case of a text has no influence** on its form in lower case. -/
theorem Text.Respelled.lower_eq {s t : String} (h : Text.Respelled s t) :
    Text.lower t.toList = Text.lower s.toList := by
  cases h with
  | lowered => rw [Text.lowered, String.toList_ofList, Text.lower_lower]
  | recased h => rw [← Text.lower_map_toLower, ← h, Text.lower_map_toLower]

namespace Lineage

/-- Tribe and clan are written in another case, if they are known. -/
structure Respelled (a a' : Lineage) : Prop where
  tribe : Option.Rel Text.Respelled a.tribe a'.tribe
  clan : Option.Rel Text.Respelled a.clan a'.clan

variable {a b a' b' : Lineage} {s t s' t' : Option String}

theorem sameText_comm (s t : Option String) : sameText s t = sameText t s := by
  cases s <;> cases t <;> simp [sameText, eq_comm]

theorem sameText_respelled (hs : Option.Rel Text.Respelled s s')
    (ht : Option.Rel Text.Respelled t t') : sameText s' t' = sameText s t := by
  cases hs with
  | none => rfl
  | some hs =>
    cases ht with
    | none => rfl
    | some ht => rw [sameText, sameText, hs.lower_eq, ht.lower_eq]

theorem mismatch?_comm (a b : Lineage) : a.mismatch? b = b.mismatch? a := by
  rw [mismatch?, mismatch?, sameText_comm a.tribe, sameText_comm a.clan]

theorem mismatch?_respelled (ha : a.Respelled a') (hb : b.Respelled b') :
    a'.mismatch? b' = a.mismatch? b := by
  rw [mismatch?, mismatch?, sameText_respelled ha.tribe hb.tribe,
    sameText_respelled ha.clan hb.clan]

end Lineage

theorem SameKnown.trans {s t u : Option String} (hst : SameKnown s t) (htu : SameKnown t u) :
    SameKnown s u := by
  obtain ⟨x, y, rfl, rfl, hxy⟩ := hst
  obtain ⟨y', z, hy, rfl, hyz⟩ := htu
  cases hy
  exact ⟨x, z, rfl, rfl, hxy.trans hyz⟩

theorem sameKnown_self_iff {s : Option String} : SameKnown s s ↔ s.isSome = true := by
  constructor
  · rintro ⟨x, y, rfl, -⟩
    rfl
  · intro h
    obtain ⟨x, rfl⟩ := Option.isSome_iff_exists.mp h
    exact ⟨x, x, rfl, rfl, rfl⟩

/--
**The comparison of lineages** gives the same answer from both sides and carries over from one
lineage to the next. A lineage agrees with itself exactly if tribe and clan are known. The answer
does not depend on the case in which they are written.
-/
theorem lineages_compared :
    (∀ a b : Lineage, a.mismatch? b = b.mismatch? a) ∧
    (∀ a b c : Lineage, a.mismatch? b = none → b.mismatch? c = none → a.mismatch? c = none) ∧
    (∀ a : Lineage, a.mismatch? a = none ↔ a.tribe.isSome = true ∧ a.clan.isSome = true) ∧
    ∀ a a' b b' : Lineage, a.Respelled a' → b.Respelled b' → a'.mismatch? b' = a.mismatch? b := by
  refine ⟨Lineage.mismatch?_comm, ?_, ?_, fun a a' b b' => Lineage.mismatch?_respelled⟩
  · intro a b c hab hbc
    rw [mismatch?_eq_none_iff] at *
    exact ⟨hab.1.trans hbc.1, hab.2.trans hbc.2⟩
  · intro a
    rw [mismatch?_eq_none_iff, sameKnown_self_iff, sameKnown_self_iff]

/-- A tribe in capitals, with a sigma in the word and one at its end, and in lower case. -/
theorem lineages_compared_of_sigmas :
    Lineage.mismatch? ⟨"registry", some "ΣΟΦΟΣ", some "ATYAK"⟩
      ⟨"form", some "σοφος", some "Atyak"⟩ = none := by
  obtain ⟨-, -, hself, hrespelled⟩ := lineages_compared
  have hknown := (hself ⟨"registry", some "ΣΟΦΟΣ", some "ATYAK"⟩).mpr ⟨rfl, rfl⟩
  rw [← hknown]
  refine hrespelled _ _ _ _ ⟨.some (.recased rfl), .some (.recased rfl)⟩ ⟨.some ?_, .some ?_⟩
  · have hlowered : Text.lowered "ΣΟΦΟΣ" = "σοφος" := by decide +kernel
    rw [← hlowered]
    exact .lowered _
  · exact .recased (by decide)

end Birthright
