import Birthright.Eligibility.Reference

/-!
# Eligibility through a guardian

Where no parent is cited, a guardian can vouch for the applicant. A first cousin only has to have a
number that is not overused. All others have to be known to the registry; grandparents have to be
old enough and to agree with the form in their lineage, while the lineage of siblings, uncles and
aunts is compared and reported but decides only if the rules say so.
-/

namespace Birthright

open Calendar (AgeGap Date gapAtLeast)

/-- The lineages of the guardian in the registry and on the form, and the event that shows them. -/
def guardianLineages (a : Applicant) (relationship : String) (d : Document) :
    Event × Lineage × Lineage :=
  let registry := Lineage.ofDocument (relationship ++ " in registry") d
  let form := Lineage.ofForm "Guardian on form" a.guardianTribe a.guardianClan
  (⟨.debug, "extracted guardian demographics",
      [a.logId, ("registry", registry.logText), ("form", form.logText)]⟩, registry, form)

/-- The verdict on a guardian whose lineage differs from that on the form. -/
def lineageFailure (a : Applicant) (m : Mismatch) (registry form : Lineage) :
    Event × Verdict :=
  let reason := Reason.ofMismatch m
  (⟨.warn, "guardian lineage mismatch", [a.logId, ("reason", reason.code)]⟩,
    .fail reason ("mismatch between " ++ registry.label ++ " and " ++ form.label))

/-- What the document about a grandparent says for the applicant. -/
def judgeGrandparent (r : Rules) (a : Applicant) (born : Date) (relationship : String)
    (d : Document) : List Event × Finding :=
  match r.birthIn d with
  | .error e => ([], .error e)
  | .ok birth =>
    if birth.any (gapAtLeast · born r.grandparentGap) then
      let (shown, registry, form) := guardianLineages a relationship d
      match registry.mismatch? form with
      | none => ([shown], .ok (.pass (relationship ++ " meets age and lineage requirements")))
      | some m =>
        let (event, verdict) := lineageFailure a m registry form
        ([shown, event], .ok verdict)
    else
      ([⟨.warn, "grandparent age difference check failed",
          [a.logId, ("relationship", relationship),
           ("gap", gapLogText (birth.map (AgeGap.between · born))),
           ("minimum", logNat r.grandparentGap.toNat)]⟩],
        .ok (.fail .ageDifferenceFailed
          (relationship ++ " must be at least " ++ logNat r.grandparentGap.toNat
            ++ " years older than the applicant")))

/-- What the document about a sibling, uncle or aunt says for the applicant. -/
def judgeCollateral (r : Rules) (a : Applicant) (relationship : String) (d : Document) :
    List Event × Finding :=
  let (shown, registry, form) := guardianLineages a relationship d
  match registry.mismatch? form with
  | none => ([shown], .ok (.pass (relationship ++ " lineage matches the form")))
  | some m =>
    if r.collateralLineageDecides then
      let (event, verdict) := lineageFailure a m registry form
      ([shown, event], .ok verdict)
    else
      let ignored := (Reason.ofMismatch m).code
      ([shown, ⟨.warn, "lineage comparison does not gate this relationship",
          [a.logId, ("relationship", relationship), ("ignored", ignored)]⟩],
        .ok (.pass (relationship ++ " accepted; lineage comparison reported " ++ ignored)))

/-- The verdict on a first cousin, about whom nothing more is asked. -/
def firstCousinVerdict : Verdict := .pass "first cousin guardian accepted after NIN usage check"

/-- What the document about a guardian says for the applicant. -/
def judgeGuardian (r : Rules) (a : Applicant) (born : Date) (relationship : String)
    (d : Document) : List Event × Finding :=
  match GuardianCheck.ofLabel? relationship with
  | some .grandparent => judgeGrandparent r a born relationship d
  | some .sibling | some .uncleAunt => judgeCollateral r a relationship d
  | some .firstCousin => ([], .ok firstCousinVerdict)
  | none =>
    ([⟨.warn, "no guardian validator for relationship",
        [a.logId, ("relationship", relationship)]⟩],
      .ok (.fail .guardianValidationFailed
        ("relationship '" ++ relationship ++ "' is not accepted for guardians")))

/-- Checks a guardian in the relationship that the form names. -/
def checkGuardian (r : Rules) (a : Applicant) (born : Date) (nin : Nin) (relationship : String) :
    Inquiry Finding := do
  match ← Inquiry.isOverused nin relationship with
  | .error e => return .error (.usage e)
  | .ok true =>
    Inquiry.noted
      ([⟨.warn, "guardian NIN usage exceeded",
          [a.logId, ("nin", nin.masked), ("relationship", relationship)]⟩],
        .ok (.fail .ninUsageExceeded
          ("guardian NIN cited more often than allowed as " ++ relationship)))
  | .ok false =>
    if GuardianCheck.ofLabel? relationship = some .firstCousin then
      return .ok firstCousinVerdict
    else
      match ← Inquiry.document nin with
      | .error e => return .error (.lookup e)
      | .ok none =>
        Inquiry.noted
          ([⟨.warn, "guardian NIN not in registry", [a.logId, ("nin", nin.masked)]⟩],
            .ok (.fail .ninNotFound "guardian NIN not found in registry"))
      | .ok (some d) => Inquiry.noted (judgeGuardian r a born relationship d)

/-- Checks the guardian that is cited. -/
def evaluateGuardian (r : Rules) (a : Applicant) (born : Date) : Inquiry Finding :=
  match a.guardianNin, a.relationshipLabel? with
  | none, _ =>
    Inquiry.noted
      ([⟨.warn, "guardian NIN missing", [a.logId]⟩],
        .ok (.fail .guardianNinMissing "neither parent nor guardian NIN supplied"))
  | some _, none =>
    Inquiry.noted
      ([⟨.warn, "guardian relationship missing or unparseable", [a.logId]⟩],
        .ok (.fail .guardianRelationshipUnreadable
          "guardian relationship to applicant could not be decoded"))
  | some nin, some relationship => do
    Inquiry.notes [⟨.info, "validating guardian",
      [a.logId, ("nin", nin.masked), ("relationship", relationship)]⟩]
    let finding ← checkGuardian r a born nin relationship
    Inquiry.noted (contain a "GUARDIAN" finding)

end Birthright
