import Birthright.Proofs.Eligibility.Containment

/-!
# What is required of a reference

Often much is wrong with a reference at once, and the reason of a rejection is then the first
requirement that is not met. Here the requirements are listed in their order, for parents and for
guardians. They speak of the answers about one person only, and not of how these are come by.

* `parentRequirements`, `guardianshipRequirements` — what is required, with the reason if it fails
* `judgeParent_follows`, `judgeGuardian_follows` — what a document comes to
-/

namespace Birthright

open Calendar (Date gapAtLeast)

/-! ## Requirements -/

/-- What is required of an application, and the reason of the verdict if it is not so. -/
structure Requirement where
  met : Prop
  reason : Reason

/-- The first requirement of a list that is not met has this reason. -/
inductive FirstUnmet : List Requirement → Reason → Prop where
  | here {q : Requirement} {rest : List Requirement} (h : ¬q.met) : FirstUnmet (q :: rest) q.reason
  | later {q : Requirement} {rest : List Requirement} {reason : Reason} (h : q.met)
      (hrest : FirstUnmet rest reason) : FirstUnmet (q :: rest) reason

/-- A verdict is favourable if all is met, and otherwise it says what is not met first. -/
def Verdict.Follows (v : Verdict) (qs : List Requirement) : Prop :=
  if v.eligible then ∀ q ∈ qs, q.met else FirstUnmet qs v.reason

section Requirements

variable (r : Rules) (a : Applicant) (born : Date)

/-- The date of birth in a document is a text or missing, and far enough before another one. -/
def ageRequirements (gap : UInt32) (d : Document) : List Requirement :=
  [⟨¬∃ e, d.Malformed e, .processingError⟩, ⟨r.OldEnough gap d born, .ageDifferenceFailed⟩]

/-- Tribe and clan in a document are known and are those of a form, as far as these are known. -/
def lineageRequirements (tribe clan : Option String) (d : Document) : List Requirement :=
  [⟨SameKnown ((d.fieldText? "tribe").bind firstValue?) (tribe.bind firstValue?), .tribeMismatch⟩,
   ⟨SameKnown ((d.fieldText? "clan").bind firstValue?) (clan.bind firstValue?), .clanMismatch⟩]

/-- What is required of the document about a parent. -/
def parentDocumentRequirements (d : Document) : List Requirement :=
  ageRequirements r born r.parentGap d ++ lineageRequirements a.tribe a.clan d

/-- What is required of the document about a guardian in a relationship. -/
def guardianDocumentRequirements (label : String) (d : Document) : List Requirement :=
  match GuardianCheck.ofLabel? label with
  | some .grandparent =>
    ageRequirements r born r.grandparentGap d
      ++ lineageRequirements a.guardianTribe a.guardianClan d
  | some .sibling | some .uncleAunt =>
    if r.collateralLineageDecides then lineageRequirements a.guardianTribe a.guardianClan d else []
  | some .firstCousin => []
  | none => [⟨False, .guardianValidationFailed⟩]

/-- What is required of the guard's answer about a number. -/
def numberRequirements (guard : Except UsageFailure Bool) : List Requirement :=
  [⟨∃ overused, guard = .ok overused, .processingError⟩, ⟨guard ≠ .ok true, .ninUsageExceeded⟩]

/-- What is required of a reference: of the number, and of the person if the registry is asked. -/
def referenceRequirements (isLookedUp : Bool) (ofDocument : Document → List Requirement)
    (guard : Except UsageFailure Bool) (found : Option Document) : List Requirement :=
  numberRequirements guard ++
    if isLookedUp then ⟨found ≠ none, .ninNotFound⟩ :: found.toList.flatMap ofDocument else []

/-- What is required of a parent. -/
def parentRequirements (guard : Except UsageFailure Bool) (found : Option Document) :
    List Requirement :=
  referenceRequirements true (parentDocumentRequirements r a born) guard found

/-- What is required of a guardian in a relationship; a first cousin is not looked up. -/
def guardianRequirements (label : String) (guard : Except UsageFailure Bool)
    (found : Option Document) : List Requirement :=
  referenceRequirements (GuardianCheck.ofLabel? label ≠ some .firstCousin)
    (guardianDocumentRequirements r a born label) guard found

/-- What is required where no parent is cited, beginning with the form itself. -/
def guardianshipRequirements (guard : Except UsageFailure Bool) (found : Option Document) :
    List Requirement :=
  ⟨a.guardianNin ≠ none, .guardianNinMissing⟩ ::
    ⟨a.relationshipLabel? ≠ none, .guardianRelationshipUnreadable⟩ ::
    a.relationshipLabel?.toList.flatMap fun label =>
      guardianRequirements r a born label guard found

end Requirements

variable {r : Rules} {born : Date}

theorem FirstUnmet.append {qs qs' : List Requirement} {reason : Reason} (h : FirstUnmet qs reason) :
    FirstUnmet (qs ++ qs') reason := by
  induction h with
  | here h => exact .here h
  | later h _ ih => exact .later h ih

theorem FirstUnmet.append_right {qs qs' : List Requirement} {reason : Reason}
    (hmet : ∀ q ∈ qs, q.met) (h : FirstUnmet qs' reason) : FirstUnmet (qs ++ qs') reason := by
  induction qs with
  | nil => exact h
  | cons q qs ih =>
    exact .later (hmet q List.mem_cons_self) (ih fun q hq => hmet q (List.mem_cons_of_mem _ hq))

namespace Verdict

variable {qs qs' : List Requirement} {reason : Reason} {detail : String}

@[simp] theorem follows_pass : (pass detail).Follows qs ↔ ∀ q ∈ qs, q.met := by
  simp [Follows]

@[simp] theorem follows_fail : (fail reason detail).Follows qs ↔ FirstUnmet qs reason := by
  simp [Follows, fail]

end Verdict

/-! ## Documents -/

theorem lineageRequirements_met {tribe clan : Option String} {d : Document} :
    (∀ q ∈ lineageRequirements tribe clan d, q.met) ↔ d.AgreesWith tribe clan := by
  simp [lineageRequirements, Document.AgreesWith]

/-- Where lineages differ first is the first requirement of a lineage that is not met. -/
theorem firstUnmet_lineage {label name : String} {tribe clan : Option String} {d : Document}
    {m : Mismatch}
    (h : (Lineage.ofDocument label d).mismatch? (Lineage.ofForm name tribe clan) = some m) :
    FirstUnmet (lineageRequirements tribe clan d) (.ofMismatch m) := by
  simp only [Lineage.mismatch?, Lineage.ofDocument, Lineage.ofForm, Bool.not_eq_true'] at h
  split at h
  · next htribe =>
    obtain rfl := Option.some.inj h
    refine .here ?_
    show ¬SameKnown _ _
    simp [← sameText_iff, htribe]
  · next htribe =>
    rw [Bool.not_eq_false, sameText_iff] at htribe
    split at h
    · next hclan =>
      obtain rfl := Option.some.inj h
      refine .later htribe (.here ?_)
      show ¬SameKnown _ _
      simp [← sameText_iff, hclan]
    · cases h

section Age

variable {gap : UInt32} {d : Document} {birth : Option Date} {day : Date}

theorem firstUnmet_malformed {e : EvaluationFailure} (h : r.birthIn d = .error e) :
    FirstUnmet (ageRequirements r born gap d) .processingError :=
  .here fun hnone => hnone ⟨e, birthIn_eq_error_iff.mp h⟩

/-- A date of birth that was read is not malformed. -/
theorem not_malformed_of_birthIn (h : r.birthIn d = .ok birth) : ¬∃ e, d.Malformed e := by
  rintro ⟨e, he⟩
  rw [birthIn_eq_error_iff.mpr he] at h
  cases h

theorem firstUnmet_young (h : r.birthIn d = .ok birth)
    (hyoung : ∀ day, birth = some day → ¬gapAtLeast day born gap = true) :
    FirstUnmet (ageRequirements r born gap d) .ageDifferenceFailed := by
  refine .later (not_malformed_of_birthIn h) (.here fun hold => ?_)
  obtain ⟨day, hday, hgap⟩ := oldEnough_iff.mp hold
  exact hyoung day (Except.ok.inj (h.symm.trans hday)) hgap

theorem ageRequirements_met (h : r.birthIn d = .ok (some day))
    (hgap : gapAtLeast day born gap = true) : ∀ q ∈ ageRequirements r born gap d, q.met := by
  intro q hq
  rcases List.mem_cons.mp hq with rfl | hq
  · exact not_malformed_of_birthIn h
  · rw [List.mem_singleton.mp hq]
    exact oldEnough_iff.mpr ⟨day, h, hgap⟩

end Age

/-- **A document about a parent** comes to what is not met first: the age, then the lineage. -/
theorem judgeParent_follows (r : Rules) (a : Applicant) (born : Date) (role : ParentRole)
    (d : Document) : ((judgeParent r a born role d).2.contained role.label).Follows
      (parentDocumentRequirements r a born d) := by
  unfold judgeParent
  cases hbirth : r.birthIn d with
  | error e => exact Verdict.follows_fail.mpr (firstUnmet_malformed hbirth).append
  | ok birth =>
    dsimp only
    split
    · next hyoung =>
      have hyoung := Option.filter_eq_none_iff.mp hyoung
      exact Verdict.follows_fail.mpr (firstUnmet_young hbirth hyoung).append
    · next day hold =>
      obtain ⟨rfl, hgap⟩ := Option.filter_eq_some_iff.mp hold
      have hage := ageRequirements_met hbirth hgap
      split
      · next hsame =>
        refine Verdict.follows_pass.mpr (List.forall_mem_append.mpr ⟨hage, ?_⟩)
        exact lineageRequirements_met.mpr ((mismatch?_ofDocument _ _).mp hsame)
      · next m hdiffers =>
        exact Verdict.follows_fail.mpr ((firstUnmet_lineage hdiffers).append_right hage)

theorem judgeGrandparent_follows (r : Rules) (a : Applicant) (born : Date) (label : String)
    (d : Document) : ((judgeGrandparent r a born label d).2.contained "GUARDIAN").Follows
      (ageRequirements r born r.grandparentGap d
        ++ lineageRequirements a.guardianTribe a.guardianClan d) := by
  unfold judgeGrandparent
  cases hbirth : r.birthIn d with
  | error e => exact Verdict.follows_fail.mpr (firstUnmet_malformed hbirth).append
  | ok birth =>
    dsimp only
    split
    · next hold =>
      obtain ⟨day, rfl, hgap⟩ := (Option.any_eq_true _ _).mp hold
      have hage := ageRequirements_met hbirth hgap
      dsimp only [guardianLineages]
      split
      · next hsame =>
        refine Verdict.follows_pass.mpr (List.forall_mem_append.mpr ⟨hage, ?_⟩)
        exact lineageRequirements_met.mpr ((mismatch?_ofDocument _ _).mp hsame)
      · next m hdiffers =>
        exact Verdict.follows_fail.mpr ((firstUnmet_lineage hdiffers).append_right hage)
    · next hyoung =>
      have hyoung : ∀ day, birth = some day → ¬gapAtLeast day born r.grandparentGap = true :=
        fun day hday hgap => hyoung ((Option.any_eq_true _ _).mpr ⟨day, hday, hgap⟩)
      exact Verdict.follows_fail.mpr (firstUnmet_young hbirth hyoung).append

theorem judgeCollateral_follows (r : Rules) (a : Applicant) (label : String) (d : Document) :
    ((judgeCollateral r a label d).2.contained "GUARDIAN").Follows
      (if r.collateralLineageDecides then lineageRequirements a.guardianTribe a.guardianClan d
        else []) := by
  unfold judgeCollateral
  dsimp only [guardianLineages]
  split
  · next hsame =>
    have hmet := lineageRequirements_met.mpr ((mismatch?_ofDocument _ _).mp hsame)
    refine Verdict.follows_pass.mpr ?_
    split
    · exact hmet
    · exact List.forall_mem_nil _
  · next m hdiffers =>
    split
    · exact Verdict.follows_fail.mpr (firstUnmet_lineage hdiffers)
    · exact Verdict.follows_pass.mpr (List.forall_mem_nil _)

/-- **A document about a guardian** comes to what the relationship demands and is not met first. -/
theorem judgeGuardian_follows (r : Rules) (a : Applicant) (born : Date) (label : String)
    (d : Document) : ((judgeGuardian r a born label d).2.contained "GUARDIAN").Follows
      (guardianDocumentRequirements r a born label d) := by
  unfold judgeGuardian guardianDocumentRequirements
  cases hcheck : GuardianCheck.ofLabel? label with
  | none => exact Verdict.follows_fail.mpr (.here id)
  | some check =>
    cases check with
    | grandparent => exact judgeGrandparent_follows r a born label d
    | sibling => exact judgeCollateral_follows r a label d
    | uncleAunt => exact judgeCollateral_follows r a label d
    | firstCousin => exact Verdict.follows_pass.mpr (List.forall_mem_nil _)

end Birthright
