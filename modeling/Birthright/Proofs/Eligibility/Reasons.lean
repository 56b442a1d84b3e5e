import Birthright.Proofs.Eligibility.Course

/-!
# Reasons of verdicts

A verdict says twice whether the applicant is eligible, by its flag and by its reason. Verdicts are
built in many places; here it is shown that the two agree wherever an evaluation comes to one.

* `judgeParent_sound`, `judgeGuardian_sound` — verdicts on a document
* `Walk.sound`, `sound_of_assess` — verdicts on references, and on a registration
-/

namespace Birthright

open Calendar (Date)

/-- The reason is that of success exactly if the verdict is in favour of the applicant. -/
def Verdict.Sound (v : Verdict) : Prop := v.eligible = true ↔ v.reason = .success

/-- If a check comes to a verdict, it is sound. -/
def Finding.Sound (f : Finding) : Prop := ∀ v, f = .ok v → v.Sound

@[simp] theorem Verdict.sound_pass (detail : String) : (Verdict.pass detail).Sound :=
  iff_of_true rfl rfl

@[simp] theorem Verdict.sound_fail {reason : Reason} {detail : String} :
    (Verdict.fail reason detail).Sound ↔ reason ≠ .success := by
  simp [Sound, fail]

@[simp] theorem Finding.sound_ok {v : Verdict} : Finding.Sound (.ok v) ↔ v.Sound := by
  simp [Sound]

@[simp] theorem Finding.sound_error {e : EvaluationFailure} : Finding.Sound (.error e) :=
  nofun

@[simp] theorem Reason.ofMismatch_ne_success (m : Mismatch) : Reason.ofMismatch m ≠ .success := by
  cases m <;> nofun

variable {r : Rules} {a : Applicant} {born : Date} {t : List Exchange} {f : Finding}

/-! ## Documents -/

theorem judgeParent_sound {role : ParentRole} {d : Document} :
    Finding.Sound (judgeParent r a born role d).2 := by
  unfold judgeParent
  split
  · exact Finding.sound_error
  · split
    · simp
    · dsimp only
      split <;> simp

theorem judgeGrandparent_sound {label : String} {d : Document} :
    Finding.Sound (judgeGrandparent r a born label d).2 := by
  unfold judgeGrandparent
  split
  · exact Finding.sound_error
  · split
    · dsimp only
      split <;> simp [lineageFailure]
    · simp

theorem judgeCollateral_sound {label : String} {d : Document} :
    Finding.Sound (judgeCollateral r a label d).2 := by
  unfold judgeCollateral
  dsimp only
  split
  · simp
  · split <;> simp [lineageFailure]

theorem judgeGuardian_sound {label : String} {d : Document} :
    Finding.Sound (judgeGuardian r a born label d).2 := by
  unfold judgeGuardian
  split
  · exact judgeGrandparent_sound
  · exact judgeCollateral_sound
  · exact judgeCollateral_sound
  · simp [firstCousinVerdict]
  · simp

/-! ## Evaluations -/

theorem Finding.Sound.contained {branch : String} (h : f.Sound) : (f.contained branch).Sound := by
  cases f with
  | ok v => exact Finding.sound_ok.mp h
  | error e => simp [Finding.contained]

theorem Applicant.judge_sound {ref : Reference} (h : ref ∈ a.references r born) (d : Document) :
    (ref.judge d).Sound := by
  rcases Applicant.mem_references h with ⟨-, role, nin, rfl⟩ | ⟨-, nin, label, rfl⟩
  · exact judgeParent_sound.contained
  · exact judgeGuardian_sound.contained

theorem Reference.Checked.sound {ref : Reference} (hjudge : ∀ d, (ref.judge d).Sound)
    (h : ref.Checked t f) : f.Sound := by
  cases h with
  | guardFailed e => simp
  | overused detail => simp
  | notLookedUp h => simp [firstCousinVerdict]
  | registryFailed h e => simp
  | unknown h detail => simp
  | judged h d => exact Finding.sound_ok.mpr (hjudge d)

/-- **A walk comes to a sound verdict** if every reference on it is judged soundly. -/
theorem Walk.sound {refs : List Reference} (hjudge : ∀ ref ∈ refs, ∀ d, (ref.judge d).Sound)
    (h : Walk refs t f) : f.Sound := by
  induction h with
  | failed h => exact h.sound (hjudge _ List.mem_cons_self)
  | accepted h hyes => exact h.sound (hjudge _ List.mem_cons_self)
  | exhausted h hno => exact h.sound (hjudge _ List.mem_cons_self)
  | passedOver h hno hrest ih => exact ih fun ref hmem => hjudge ref (List.mem_cons_of_mem _ hmem)

theorem Evaluating.sound (h : Evaluating r a t f) : f.Sound := by
  cases h with
  | otherClaim hclaim detail => simp
  | birthUnreadable hclaim hborn detail => simp
  | guardianMissing hclaim hborn hparent hnin detail => simp
  | relationshipUnreadable hclaim hborn hparent hnin hlabel detail => simp
  | walked hclaim hborn hwalk => exact hwalk.sound fun ref hmem => Applicant.judge_sound hmem

/-- **The verdict on a registration** has the reason of success exactly if it is favourable. -/
theorem sound_of_assess {id : RegistrationId} {v : Verdict}
    (h : (assess r id).Yields t (.ok (a, v))) : v.Sound := by
  rcases evaluate_course (evaluate_of_assess h) with ⟨e, -, hfailed⟩ | ⟨fields, u, -, hevaluating⟩
  · cases hfailed
  · exact Finding.sound_ok.mp hevaluating.sound

end Birthright
