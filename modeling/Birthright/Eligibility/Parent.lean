import Birthright.Eligibility.Reference

/-!
# Eligibility through a parent

A parent vouches for the applicant when the parent's number is not overused, the registry knows the
person, the person is old enough, and tribe and clan agree with those of the applicant. The father
is asked first, and the mother only when the father is not cited or does not vouch.
-/

namespace Birthright

open Calendar (AgeGap Date gapAtLeast)

/-- What the document about a parent says for the applicant, who was born on the given day. -/
def judgeParent (r : Rules) (a : Applicant) (born : Date) (role : ParentRole) (d : Document) :
    List Event × Finding :=
  match r.birthIn d with
  | .error e => ([], .error e)
  | .ok birth =>
    match birth.filter (gapAtLeast · born r.parentGap) with
    | none =>
      ([⟨.warn, "parent age difference check failed",
          [a.logId, ("role", role.label), ("gap", gapLogText (birth.map (AgeGap.between · born))),
           ("minimum", logNat r.parentGap.toNat)]⟩],
        .ok (.fail .ageDifferenceFailed
          (role.label ++ " must be at least " ++ logNat r.parentGap.toNat
            ++ " years older than the applicant")))
    | some day =>
      let gap := AgeGap.between day born
      let parent := Lineage.ofDocument (role.label ++ " in registry") d
      let applicant := Lineage.ofForm "Applicant" a.tribe a.clan
      let seen : List Event :=
        [⟨.debug, "parent age difference accepted",
            [a.logId, ("role", role.label), ("years", logInt gap.years),
             ("months", logInt gap.months), ("days", logInt gap.days)]⟩,
         ⟨.debug, "extracted parent demographics",
            [a.logId, ("parent", parent.logText), ("applicant", applicant.logText)]⟩]
      match parent.mismatch? applicant with
      | none => (seen, .ok (.pass (role.label ++ " tribe and clan match the applicant")))
      | some m =>
        let reason := Reason.ofMismatch m
        (seen ++ [⟨.warn, "parent lineage mismatch",
            [a.logId, ("role", role.label), ("reason", reason.code)]⟩],
          .ok (.fail reason ("mismatch between " ++ parent.label ++ " and " ++ applicant.label)))

/-- Checks one parent. -/
def checkParent (r : Rules) (a : Applicant) (born : Date) (role : ParentRole) (nin : Nin) :
    Inquiry Finding := do
  match ← Inquiry.isOverused nin role.label with
  | .error e => return .error (.usage e)
  | .ok true =>
    Inquiry.noted
      ([⟨.warn, "parent NIN usage exceeded",
          [a.logId, ("role", role.label), ("nin", nin.masked)]⟩],
        .ok (.fail .ninUsageExceeded (role.label ++ " NIN cited more often than allowed")))
  | .ok false =>
    match ← Inquiry.document nin with
    | .error e => return .error (.lookup e)
    | .ok none =>
      Inquiry.noted
        ([⟨.warn, "parent NIN not in registry",
            [a.logId, ("role", role.label), ("nin", nin.masked)]⟩],
          .ok (.fail .ninNotFound (role.label ++ " NIN not found in registry")))
    | .ok (some d) => Inquiry.noted (judgeParent r a born role d)

/-- Checks one parent after the other until one vouches; `last` is the verdict before. -/
def tryParents (r : Rules) (a : Applicant) (born : Date) :
    List (ParentRole × Nin) → Option Verdict → Inquiry Finding
  | [], last => return .ok (last.getD (.fail .processingError "no parent NIN supplied"))
  | (role, nin) :: others, _ => do
    let finding ← checkParent r a born role nin
    match ← Inquiry.noted (contain a role.label finding) with
    | .error e => return .error e
    | .ok v =>
      if v.eligible then return .ok v
      else
        Inquiry.notes [⟨.info, "parent validation failed",
          [a.logId, ("role", role.label), ("reason", v.reason.code)]⟩]
        tryParents r a born others (some v)

/-- Checks the parents that are cited. -/
def evaluateParents (r : Rules) (a : Applicant) (born : Date) : Inquiry Finding :=
  tryParents r a born a.parents none

end Birthright
