import Mathlib.Data.List.Nodup
import Birthright.Claim
import Birthright.Proofs.Text.Words
import Birthright.Relationship

/-!
# Which labels are accepted

A label is compared in lower case, with single spaces between its words. The labels of relationships
and of the claim by birth consist of ASCII characters, and none of them has a `k`. So a text is
accepted for one of them exactly if its words are the same but for the case of ASCII letters,
although all other letters are lower-cased as well.

* `plainLabel_eq_iff` — the labels that a text is compared with
* `labels_name_by_words` — relationships and claims
-/

namespace Birthright

open Text (isBlank plainWords)

/--
The words of a label are ASCII without a `k`, so that lower-casing leads to them from ASCII letters
only.
-/
def IsAsciiLabel (label : String) : Prop :=
  ∀ c ∈ (Text.squeeze label.toList).map Char.toLower, c.toNat < 128 ∧ c ≠ 'k'

/-- **A text is compared with a label word by word**, if the label is ASCII and without a `k`. -/
theorem plainLabel_eq_iff {s label : String} (h : IsAsciiLabel label) :
    plainLabel s = plainLabel label ↔ plainWords s.toList = plainWords label.toList := by
  have hlabel : plainLabel label = (Text.squeeze label.toList).map Char.toLower :=
    (Text.lower_eq_iff_of_ascii h).mpr rfl
  rw [hlabel, ← Text.map_toLower_squeeze_eq_iff]
  exact Text.lower_eq_iff_of_ascii h

/-! ## Relationships -/

theorem mem_all (r : Relationship) : r ∈ Relationship.all := by
  cases r <;> decide

theorem isAsciiLabel_relationship (r : Relationship) : IsAsciiLabel r.label := by
  refine Text.forall_mem_of_all ?_
  cases r <;> decide +kernel

/-- No two relationships have labels with the same words. -/
theorem eq_of_plainWords {r r' : Relationship}
    (h : plainWords r.label.toList = plainWords r'.label.toList) : r = r' := by
  have hall : (Relationship.all.map fun r => plainWords r.label.toList).Nodup := by decide +kernel
  exact List.inj_on_of_nodup_map hall (mem_all r) (mem_all r') h

/-- What is found in a list of all is the only one with the property. -/
theorem find?_eq_some_iff {α : Type} {l : List α} {p : α → Bool} (hall : ∀ a, a ∈ l)
    (hone : ∀ a b, p a = true → p b = true → a = b) {a : α} :
    l.find? p = some a ↔ p a = true := by
  refine ⟨List.find?_some, fun h => ?_⟩
  cases hfound : l.find? p with
  | none => exact absurd h (List.find?_eq_none.mp hfound a (hall a))
  | some b => rw [hone a b h (List.find?_some hfound)]

/-- **A text names a relationship** if it has the words of its label. -/
theorem relationship_ofLabel?_iff {s : String} {r : Relationship} :
    Relationship.ofLabel? s = some r ↔ plainWords s.toList = plainWords r.label.toList := by
  have hsame (r : Relationship) : decide (plainLabel r.label = plainLabel s) = true ↔
      plainWords s.toList = plainWords r.label.toList := by
    rw [decide_eq_true_iff, eq_comm, plainLabel_eq_iff (isAsciiLabel_relationship r)]
  have hone (r r' : Relationship) (h : decide (plainLabel r.label = plainLabel s) = true)
      (h' : decide (plainLabel r'.label = plainLabel s) = true) : r = r' :=
    eq_of_plainWords (((hsame r).mp h).symm.trans ((hsame r').mp h'))
  rw [Relationship.ofLabel?, find?_eq_some_iff mem_all hone, hsame]

/-! ## Claims -/

theorem plainLabel_byBirth : ∀ label ∈ Claim.byBirthLabels, plainLabel label = label.toList := by
  decide +kernel

theorem isAsciiLabel_byBirth {label : String} (h : label ∈ Claim.byBirthLabels) :
    IsAsciiLabel label := by
  have hall : ∀ label ∈ Claim.byBirthLabels, (((Text.squeeze label.toList).map Char.toLower).all
      fun c => decide (c.toNat < 128 ∧ c ≠ 'k')) = true := by decide +kernel
  exact Text.forall_mem_of_all (hall label h)

theorem ofLabel_eq_byBirth_iff {s : String} : Claim.ofLabel (some s) = .byBirth ↔
    ∃ label ∈ Claim.byBirthLabels, plainLabel s = plainLabel label := by
  have hself : Claim.byBirthLabels.any (·.toList = plainLabel s) = true ↔
      ∃ label ∈ Claim.byBirthLabels, plainLabel s = plainLabel label := by
    simp only [List.any_eq_true, decide_eq_true_eq]
    refine exists_congr fun label => and_congr_right fun hlabel => ?_
    rw [plainLabel_byBirth label hlabel, eq_comm]
  rw [Claim.ofLabel, ← hself]
  split
  · next h => exact iff_of_true rfl h
  · next h => exact iff_of_false nofun h

/-- The words of the labels that claim citizenship by birth. -/
def byBirthWords : List (List (List Char)) :=
  [["birth".toList], ["by".toList, "birth".toList], ["by_birth".toList]]

/-- **A text claims citizenship by birth** if it has the words of one of three labels. -/
theorem claim_ofLabel_iff {s : String} :
    Claim.ofLabel (some s) = .byBirth ↔ plainWords s.toList ∈ byBirthWords := by
  have hwords : Claim.byBirthLabels.map (fun label => plainWords label.toList) = byBirthWords := by
    decide +kernel
  rw [ofLabel_eq_byBirth_iff, ← hwords, List.mem_map]
  refine exists_congr fun label => and_congr_right fun hlabel => ?_
  rw [plainLabel_eq_iff (isAsciiLabel_byBirth hlabel), eq_comm]

/-! ## What is never accepted -/

/-- A text with the words of an ASCII text has ASCII characters and blanks only. -/
theorem ascii_of_plainWords {s label : String} {c : Char} (hc : c ∈ s.toList)
    (hblank : isBlank c = false) (hwords : plainWords s.toList = plainWords label.toList)
    (hascii : IsAsciiLabel label) : c.toNat < 128 := by
  have hmem : c.toLower ∈ (Text.squeeze s.toList).map Char.toLower :=
    List.mem_map_of_mem (Text.mem_squeeze hc hblank)
  rw [Text.map_toLower_squeeze_eq_iff.mpr hwords] at hmem
  exact Text.ascii_of_toLower (hascii _ hmem).1

/--
**Labels name by their words.** A text names a relationship exactly if its words are those of the
label of the relationship, and claims citizenship by birth exactly if they are `birth`, `by birth`
or `by_birth`, both up to the case of ASCII letters. A text with a character that is neither ASCII
nor blank names nothing, and no text names two relationships.
-/
theorem labels_name_by_words (s : String) :
    (∀ r, Relationship.ofLabel? s = some r ↔ plainWords s.toList = plainWords r.label.toList) ∧
    (Claim.ofLabel (some s) = .byBirth ↔ plainWords s.toList ∈ byBirthWords) ∧
    (∀ c ∈ s.toList, isBlank c = false → 128 ≤ c.toNat →
      Relationship.ofLabel? s = none ∧ Claim.ofLabel (some s) = .other) ∧
    ∀ r r' : Relationship, plainWords s.toList = plainWords r.label.toList →
      plainWords s.toList = plainWords r'.label.toList → r = r' := by
  refine ⟨fun r => relationship_ofLabel?_iff, claim_ofLabel_iff, ?_, ?_⟩
  · intro c hc hblank hcode
    constructor
    · refine Option.eq_none_iff_forall_ne_some.mpr fun r hr => ?_
      have hwords := relationship_ofLabel?_iff.mp hr
      exact absurd (ascii_of_plainWords hc hblank hwords (isAsciiLabel_relationship r)) (by omega)
    · cases hclaim : Claim.ofLabel (some s) with
      | other => rfl
      | byBirth =>
        obtain ⟨label, hlabel, hplain⟩ := ofLabel_eq_byBirth_iff.mp hclaim
        have hwords := (plainLabel_eq_iff (isAsciiLabel_byBirth hlabel)).mp hplain
        exact absurd (ascii_of_plainWords hc hblank hwords (isAsciiLabel_byBirth hlabel)) (by omega)
  · intro r r' hr hr'
    rw [← relationship_ofLabel?_iff] at hr hr'
    exact Option.some.inj (hr.symm.trans hr')

/-- A label in other letters is accepted; with a long s, the capital of which is an S, it is not. -/
theorem labels_of_firstCousin :
    Relationship.ofLabel? "\u3000fIRST  cOUSIN" = some .firstCousin ∧
      Relationship.ofLabel? "Fir\u017Ft Cousin" = none := by
  obtain ⟨hcapitals, -⟩ := labels_name_by_words "\u3000fIRST  cOUSIN"
  obtain ⟨-, -, hnothing, -⟩ := labels_name_by_words "Fir\u017Ft Cousin"
  exact ⟨(hcapitals .firstCousin).mpr (by decide +kernel),
    (hnothing '\u017F' (by decide) (by decide) (by decide)).1⟩

end Birthright
