import Birthright.Proofs.Eligibility.Course

/-!
# The order of the questions

An evaluation asks in a fixed order, whatever comes back. The form is fetched first and only once.
Then each person who is a reference gets one block of questions, the father before the mother: the
usage guard is asked about the number, and after it the registry if the number is cleared. So nobody
is looked up whose number is overused, and nobody is asked about whom the form does not cite.

* `passedOver_iff` — whether the mother is asked about can be read off the father's block
* `Evaluating.asked` — the questions about an applicant
* `evaluate_asks_in_order` — the questions of the whole evaluation
-/

namespace Birthright

open Calendar (Date)

/-- The exchanges about a person, or none if there is nobody. -/
def BlockIf (nin? : Option Nin) (role : String) (isLookedUp : Bool) (t : List Exchange) : Prop :=
  match nin? with
  | some nin => Block nin role isLookedUp t
  | none => t = []

/--
The father is passed over: the registry did not fail, and it gave no document that vouches for him.
So is a father about whom nothing was asked.
-/
def PassedOver (r : Rules) (a : Applicant) (born : Date) (t : List Exchange) : Prop :=
  ∀ nin found, ⟨.document nin, found⟩ ∈ t → ∃ known, found = .ok known ∧
    ∀ d ∈ known, ¬(r.OldEnough r.parentGap d born ∧ d.AgreesWith a.tribe a.clan)

/-- The exchanges about the parents: about the mother only after the father was passed over. -/
structure ParentsAsked (r : Rules) (a : Applicant) (born : Date) (t u : List Exchange) : Prop where
  father : BlockIf a.fatherNin ParentRole.father.label true t
  mother : PassedOver r a born t → BlockIf a.motherNin ParentRole.mother.label true u
  spared : ¬PassedOver r a born t → u = []

/-- The exchanges about the guardian: only without parents, and if the relationship can be read. -/
def GuardianAsked (a : Applicant) (t : List Exchange) : Prop :=
  if a.hasParent then t = []
  else
    match a.relationshipLabel? with
    | some label =>
      BlockIf a.guardianNin label (GuardianCheck.ofLabel? label ≠ some .firstCousin) t
    | none => t = []

/-- The exchanges after the form was fetched. -/
structure AskedInOrder (r : Rules) (a : Applicant) (t : List Exchange) : Prop where
  /-- Nothing is asked if the form settles it. -/
  silent : a.claim ≠ .byBirth ∨ a.dateOfBirth.bind r.date? = none → t = []
  /-- Else there is a block for each reference that is reached. -/
  blocks : ∀ born, a.claim = .byBirth → a.dateOfBirth.bind r.date? = some born →
    ∃ father mother guardian, t = father ++ (mother ++ guardian) ∧
      ParentsAsked r a born father mother ∧ GuardianAsked a guardian
  /-- Only numbers that the form cites are asked about. -/
  cited : ∀ x ∈ t, ∃ nin role, (nin, role) ∈ a.citations ∧
    (x.call = .isOverused nin role ∨ x.call = .document nin)
  /-- A person is looked up directly after the number was cleared. -/
  cleared : ∀ u v nin found, t = u ++ ⟨.document nin, found⟩ :: v →
    ∃ before role, u = before ++ [⟨.isOverused nin role, .ok false⟩]

variable {r : Rules} {a : Applicant} {born : Date} {t : List Exchange} {f : Finding}

/-- **A father is passed over** exactly if his check comes to a verdict against the applicant. -/
theorem passedOver_iff {nin : Nin} (h : (Reference.ofParent r a born .father nin).Checked t f) :
    PassedOver r a born t ↔ ∃ v, f = .ok v ∧ v.eligible = false := by
  cases h with
  | guardFailed e => simp [PassedOver, Verdict.fail]
  | overused detail => simp [PassedOver, Verdict.fail]
  | notLookedUp h => cases h
  | registryFailed h e => simp [PassedOver, Reference.lookingUp]
  | unknown h detail => simp [PassedOver, Reference.lookingUp, Verdict.fail]
  | judged h d =>
    have hjudge : ((Reference.ofParent r a born .father nin).judge d).eligible = true
        ↔ r.OldEnough r.parentGap d born ∧ d.AgreesWith a.tribe a.clan :=
      contained_eligible_iff.trans judgeParent_eligible_iff
    have hno : ((Reference.ofParent r a born .father nin).judge d).eligible = false
        ↔ ¬(r.OldEnough r.parentGap d born ∧ d.AgreesWith a.tribe a.clan) := by
      rw [← hjudge, Bool.not_eq_true]
    simp [PassedOver, Reference.lookingUp, hno]

/-- The mother is asked about when the walk comes to her. -/
theorem Walk.motherAsked (h : Walk (a.motherNin.toList.map (.ofParent r a born .mother ·)) t f) :
    BlockIf a.motherNin ParentRole.mother.label true t := by
  cases hmother : a.motherNin with
  | none =>
    rw [hmother] at h
    cases h
  | some mother =>
    rw [hmother] at h
    exact h.checked.block

theorem Walk.parentsAsked (hparent : a.hasParent = true) (h : Walk (a.references r born) t f) :
    ∃ u w, t = u ++ w ∧ ParentsAsked r a born u w := by
  cases hfather : a.fatherNin with
  | none =>
    rw [Applicant.references_of_no_father hparent hfather] at h
    have hnobody : PassedOver r a born [] := fun _ _ hx => nomatch hx
    refine ⟨[], t, rfl, ?_, fun _ => h.motherAsked, fun hno => absurd hnobody hno⟩
    rw [hfather, BlockIf]
  | some father =>
    rw [Applicant.references_of_father hfather] at h
    obtain ⟨u, x, w, rfl, hchecked, hrest⟩ := h.uncons
    have hpassed := passedOver_iff hchecked
    refine ⟨u, w, rfl, by rw [hfather]; exact hchecked.block, ?_, ?_⟩
    · intro hover
      obtain ⟨v, rfl, hno⟩ := hpassed.mp hover
      rcases hrest with ⟨rfl, -, hnone | hyes⟩ | ⟨_, -, -, hrest⟩
      · -- Nothing comes after the father because no mother is cited.
        have hmother : a.motherNin = none := by simpa using hnone
        rw [hmother, BlockIf]
      · exact absurd (hyes v rfl) (by simp [hno])
      · exact hrest.motherAsked
    · intro hover
      rcases hrest with ⟨rfl, -, -⟩ | ⟨v, rfl, hno, -⟩
      · rfl
      · exact absurd (hpassed.mpr ⟨v, rfl, hno⟩) hover

theorem Walk.guardianAsked (hparent : a.hasParent = false) (h : Walk (a.references r born) t f) :
    GuardianAsked a t := by
  unfold Applicant.references at h
  rw [if_neg (by simp [hparent])] at h
  unfold GuardianAsked
  rw [if_neg (by simp [hparent])]
  split at h
  · next nin label hnin hlabel =>
    rw [hlabel, hnin]
    exact h.checked.block
  · cases h

/-- Who is asked about along a walk is cited on the form. -/
theorem Walk.cited {x : Exchange} (h : Walk (a.references r born) t f) (hx : x ∈ t) :
    ∃ nin role, (nin, role) ∈ a.citations ∧
      (x.call = .isOverused nin role ∨ x.call = .document nin) := by
  obtain ⟨u, v, rfl⟩ := List.append_of_mem hx
  obtain ⟨before, ref, others, u₁, u₂, v₁, v₂, g, hrefs, rfl, rfl, hchecked, -⟩ := h.of_exchange
  refine ⟨ref.nin, ref.role, ?_, hchecked.block.call_of_mem (by simp)⟩
  rw [← Applicant.references_map, hrefs]
  exact List.mem_map.mpr ⟨ref, by simp, rfl⟩

/-- Who is looked up along a walk was cleared directly before. -/
theorem Walk.cleared {refs : List Reference} {u v : List Exchange} {nin : Nin}
    {found : Except LookupFailure (Option Document)}
    (h : Walk refs (u ++ ⟨.document nin, found⟩ :: v) f) :
    ∃ before role, u = before ++ [⟨.isOverused nin role, .ok false⟩] := by
  obtain ⟨_, ref, _, u₁, u₂, v₁, v₂, g, rfl, rfl, rfl, hchecked, -⟩ := h.of_exchange
  obtain ⟨rfl, rfl, -⟩ := hchecked.block.of_lookup
  exact ⟨u₁, ref.role, rfl⟩

/-- Nothing is asked about parents who are not cited. -/
theorem parentsAsked_nil (hparent : a.hasParent = false) : ParentsAsked r a born [] [] := by
  obtain ⟨hfather, hmother⟩ : a.fatherNin = none ∧ a.motherNin = none := by
    simpa [Applicant.hasParent] using hparent
  refine ⟨?_, fun _ => ?_, fun _ => rfl⟩
  · rw [hfather, BlockIf]
  · rw [hmother, BlockIf]

/-- Nothing is asked about a guardian who is not cited, or of whom no relationship can be read. -/
theorem guardianAsked_nil (h : a.guardianNin = none ∨ a.relationshipLabel? = none) :
    GuardianAsked a [] := by
  unfold GuardianAsked
  split
  · rfl
  · split
    · next label hlabel =>
      rcases h with hnin | hnone
      · rw [hnin, BlockIf]
      · rw [hnone] at hlabel
        cases hlabel
    · rfl

/-- Nothing at all may be asked where the form settles it. -/
theorem askedInOrder_nil (h : ∀ born, a.claim = .byBirth → a.dateOfBirth.bind r.date? = some born →
    a.hasParent = false ∧ (a.guardianNin = none ∨ a.relationshipLabel? = none)) :
    AskedInOrder r a [] where
  silent _ := rfl
  blocks born hclaim hborn :=
    have ⟨hparent, hguardian⟩ := h born hclaim hborn
    ⟨[], [], [], rfl, parentsAsked_nil hparent, guardianAsked_nil hguardian⟩
  cited _ hx := nomatch hx
  cleared _ _ _ _ ht := by simp at ht

theorem Walk.blocks (h : Walk (a.references r born) t f) :
    ∃ father mother guardian, t = father ++ (mother ++ guardian) ∧
      ParentsAsked r a born father mother ∧ GuardianAsked a guardian := by
  cases hparent : a.hasParent with
  | true =>
    obtain ⟨u, w, rfl, hasked⟩ := h.parentsAsked hparent
    exact ⟨u, w, [], by simp, hasked, by rw [GuardianAsked, if_pos hparent]⟩
  | false => exact ⟨[], [], t, rfl, parentsAsked_nil hparent, h.guardianAsked hparent⟩

/-- **What is asked about an applicant** is asked in order. -/
theorem Evaluating.asked (h : Evaluating r a t f) : AskedInOrder r a t := by
  cases h with
  | otherClaim hclaim detail => exact askedInOrder_nil fun _ h _ => absurd h hclaim
  | birthUnreadable hclaim hnone detail =>
    exact askedInOrder_nil fun born _ hborn => by simp [hnone] at hborn
  | guardianMissing hclaim hborn hparent hnin detail =>
    exact askedInOrder_nil fun _ _ _ => ⟨hparent, .inl hnin⟩
  | relationshipUnreadable hclaim hborn hparent hnin hlabel detail =>
    exact askedInOrder_nil fun _ _ _ => ⟨hparent, .inr hlabel⟩
  | @walked born _ _ hclaim hborn hwalk =>
    refine ⟨?_, ?_, fun x hx => hwalk.cited hx, ?_⟩
    · rintro (hother | hnone)
      · exact absurd hclaim hother
      · simp [hnone] at hborn
    · intro born' _ hborn'
      obtain rfl : born = born' := Option.some.inj (hborn.symm.trans hborn')
      exact hwalk.blocks
    · rintro u v nin found rfl
      exact hwalk.cleared

/--
**An evaluation asks in order.** The form is fetched first and only once; nothing follows if this
fails, and otherwise the references are asked about one after the other.
-/
theorem evaluate_asks_in_order {σ : Type} (w : Collaborators σ) (r : Rules) (id : RegistrationId)
    (s : σ) : FormField.names.length = 14 ∧
      ∃ answer t, (evaluate r id).exchanges w s = ⟨.fields id FormField.names, answer⟩ :: t ∧
        (∀ e, answer = .error e → t = []) ∧
        ∀ fields, answer = .ok fields → AskedInOrder r (.ofFields id fields) t := by
  refine ⟨rfl, ?_⟩
  rcases evaluate_course (Inquiry.yields_run w (evaluate r id) s) with
    ⟨e, ht, -⟩ | ⟨fields, t, ht, hevaluating⟩
  · exact ⟨.error e, [], ht, fun _ _ => rfl, fun _ h => nomatch h⟩
  · refine ⟨.ok fields, t, ht, fun _ h => (nomatch h), ?_⟩
    rintro _ ⟨⟩
    exact hevaluating.asked

end Birthright
