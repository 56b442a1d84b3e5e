import Mathlib.Data.List.Induction
import Birthright.Proofs.Verification.Undisturbed

/-!
# Registrations that passed and are processed again

Nothing fails, and a registration whose stored outcome passed is processed once more. Nothing is
counted. Its own citation has been counted meanwhile, and those of others too, so that the verdict
is the same only if the number that vouched for it is still not overused.

* `exists_evaluation_of_stored` — how a stored outcome that passed came to be
* `process_again` — what the processing of such a registration does
-/

namespace Birthright

variable {r : Rules} {m : Memory} {l : Ledger} {id : RegistrationId} {o : Outcome}

/-- What was done last for a registration decides who vouched for it. -/
theorem vouching?_doneFor_append {hs : List Handling} {t : List Exchange} {n : Nin}
    (h : vouching? t = some n) : vouching? (doneFor id (hs ++ [⟨id, t⟩])) = some n := by
  have hdone : doneFor id (hs ++ [⟨id, t⟩]) = doneFor id hs ++ t := by
    simp [doneFor, List.filter_append]
  rw [hdone]
  exact vouching?_append_of_some h

theorem doneFor_append_of_ne {hs : List Handling} {h : Handling} (hid : h.id ≠ id) :
    doneFor id (hs ++ [h]) = doneFor id hs := by
  simp [doneFor, List.filter_append, hid]

/--
**A stored outcome that passed** comes from an evaluation in an earlier memory, and the number that
was checked last for the registration is the one that vouched.
-/
theorem exists_evaluation_of_stored (hm : m.outages = []) (hl : m.usage = .ledger l)
    (hnone : m.outcomes = []) (requests : List Request)
    (ho : Table.get? (m.served r requests).outcomes id = some o) (hpassed : o.isValid = true) :
    ∃ (before : Memory) (v : Verdict) (t : List Exchange),
      before.outages = [] ∧ before.Later (m.served r requests) ∧
      (evaluateApplicant r (before.applicant id)).Yields t (.ok v) ∧
      (∀ e ∈ t, e.answer = before.answers e.call) ∧ v.eligible = true ∧ o.verdict = some v ∧
      ∀ n, vouching? t = some n →
        vouching? (doneFor id (serve Memory.collaborators r requests m)) = some n := by
  -- Induction on the registrations from the last one on: the last one that is this one decides.
  induction requests using List.reverseRecOn with
  | nil =>
    have hempty : Table.get? m.outcomes id = some o := ho
    rw [hnone] at hempty
    cases hempty
  | append_singleton requests q ih =>
    obtain ⟨hlater, l', hl'⟩ := Memory.later_served hl r requests
    obtain ⟨v, hv⟩ := Memory.process_undisturbed (hlater.outages hm) r q
    have hnext := Memory.later_processed hl' r q
    rw [Memory.served_append] at ho ⊢
    rw [Memory.processed_eq, hv.get?_outcomes] at ho
    rw [serve_append]
    by_cases hid : q.id = id
    · subst hid
      rw [if_pos rfl] at ho
      obtain rfl := Option.some.inj ho
      rw [isValid_ofVerdict] at hpassed
      obtain ⟨t, hyields, htrue, hvouching⟩ := hv.evaluated
      refine ⟨m.served r requests, v, t, hlater.outages hm, hnext, hyields, htrue, hpassed, rfl,
        fun n hn => vouching?_doneFor_append ?_⟩
      rw [hvouching, hn]
    · rw [if_neg hid] at ho
      obtain ⟨before, v', t, hbefore, hsince, hyields, htrue, hyes, hverdict, hvouching⟩ := ih ho
      refine ⟨before, v', t, hbefore, hsince.trans hnext, hyields, htrue, hyes, hverdict, ?_⟩
      rw [doneFor_append_of_ne hid]
      exact hvouching

/--
**A registration that passed is processed again**: an outcome is given back and stored, and nothing
is counted. It passes with the same verdict exactly if the number that vouched for it is not
overused now, its own citation included.
-/
theorem process_again (packets : Table RegistrationId (Table String String))
    (registry : Table Nin Document) (l : Ledger) (r : Rules) (requests : List Request) (q : Request)
    (o : Outcome)
    (ho : Table.get? ((Memory.fresh packets registry (.ledger l)).served r requests).outcomes q.id
      = some o) (hpassed : o.isValid = true) :
    ∃ n o', vouching? (doneFor q.id (serve Memory.collaborators r requests
        (.fresh packets registry (.ledger l)))) = some n ∧
      ((process r q.now q.id).runIn
        ((Memory.fresh packets registry (.ledger l)).served r requests)).result = .ok o' ∧
      Table.get? ((Memory.fresh packets registry (.ledger l)).served r
        (requests ++ [q])).outcomes q.id = some o' ∧
      (∀ i, ((Memory.fresh packets registry (.ledger l)).served r (requests ++ [q])).count? i
        = ((Memory.fresh packets registry (.ledger l)).served r requests).count? i) ∧
      (o'.isValid = true ∧ o'.verdict = o.verdict
        ↔ ((Memory.fresh packets registry (.ledger l)).served r requests).isOverused n = false) := by
  generalize hm : Memory.fresh packets registry (.ledger l) = m at ho ⊢
  have houtages : m.outages = [] := by rw [← hm]; rfl
  have husage : m.usage = .ledger l := by rw [← hm]; rfl
  have hnone : m.outcomes = [] := by rw [← hm]; rfl
  obtain ⟨before, v, t, hbefore, hlater, hyields, htrue, hyes, hverdict, hvouching⟩ :=
    exists_evaluation_of_stored houtages husage hnone requests ho hpassed
  obtain ⟨hsince, l', hl'⟩ := Memory.later_served husage r requests
  obtain ⟨v', hv⟩ := Memory.process_undisturbed (hsince.outages houtages) r q
  obtain ⟨n, role, hn, hagain⟩ := evaluateApplicant_again (hlater.stricter hbefore)
    (Memory.answered hbefore) hyields htrue hyes
  rw [← hlater.applicant, hv.verdict_eq,
    Memory.answers_isOverused (hsince.outages houtages)] at hagain
  refine ⟨n, .ofVerdict q.id v' q.now, hvouching n hn, hv.result, ?_, fun i => ?_, ?_⟩
  · rw [Memory.served_append, Memory.processed_eq, hv.get?_outcomes, if_pos rfl]
  · have hold : (m.served r requests).hasPassed q.id = true := by
      rw [Memory.hasPassed, ho]
      exact hpassed
    have hnothing : ¬(v'.eligible = true ∧ (m.served r requests).hasPassed q.id = false) := by
      rw [hold]
      exact fun h => Bool.noConfusion h.2
    rw [Memory.served_append, Memory.count?, Memory.usage_processed hl', hv.cited, if_neg hnothing,
      Memory.count?, hl']
    rfl
  · have hsame : (Outcome.ofVerdict q.id v' q.now).verdict = o.verdict ↔ v' = v := by
      rw [hverdict]
      exact Option.some_inj
    rw [isValid_ofVerdict, hsame]
    constructor
    · rintro ⟨-, rfl⟩
      exact Except.ok.inj (hagain.mp rfl)
    · intro hcleared
      have hv' : v' = v := Except.ok.inj (hagain.mpr (by rw [hcleared]))
      exact ⟨hv' ▸ hyes, hv'⟩

/-- What is stored for a registration that cites a first cousin, when it passes. -/
def cousinPassed : Outcome :=
  .ofVerdict ⟨"A"⟩ (.pass "first cousin guardian accepted after NIN usage check")
    (requestFor "A").now

theorem process_again_below_limit :
    ∃ o', ((process .standard (requestFor "A").now ⟨"A"⟩).runIn
        ((cousins ["A"] 5).served .standard [requestFor "A"])).result = .ok o' ∧
      o'.isValid = true ∧ o'.verdict = cousinPassed.verdict := by
  obtain ⟨hstored, hvouching, hcleared⟩ :
      Table.get? ((cousins ["A"] 5).served .standard [requestFor "A"]).outcomes ⟨"A"⟩
        = some cousinPassed ∧
      vouching? (doneFor ⟨"A"⟩ (serve Memory.collaborators .standard [requestFor "A"]
        (cousins ["A"] 5))) = some ⟨"G"⟩ ∧
      ((cousins ["A"] 5).served .standard [requestFor "A"]).isOverused ⟨"G"⟩ = false := by
    decide +kernel
  obtain ⟨n, o', hn, hresult, -, -, hsame⟩ := process_again [(⟨"A"⟩, cousinForm)] [] ⟨5, []⟩
    .standard [requestFor "A"] (requestFor "A") cousinPassed hstored (by decide +kernel)
  obtain rfl : n = ⟨"G"⟩ := Option.some.inj (hn.symm.trans hvouching)
  exact ⟨o', hresult, hsame.mpr hcleared⟩

/-- **A registration that passed may not pass again**: its own citation is one too many. -/
theorem not_passed_again :
    ¬∀ (packets : Table RegistrationId (Table String String)) (registry : Table Nin Document)
      (l : Ledger) (r : Rules) (requests : List Request) (q : Request) (o : Outcome),
      Table.get? ((Memory.fresh packets registry (.ledger l)).served r requests).outcomes q.id
        = some o →
      o.isValid = true →
      ∃ o', ((process r q.now q.id).runIn
          ((Memory.fresh packets registry (.ledger l)).served r requests)).result = .ok o' ∧
        o'.isValid = true ∧ o'.verdict = o.verdict ∧
        Table.get? ((Memory.fresh packets registry (.ledger l)).served r
          (requests ++ [q])).outcomes q.id = some o' ∧
        ∀ n, ((Memory.fresh packets registry (.ledger l)).served r (requests ++ [q])).count? n
          = ((Memory.fresh packets registry (.ledger l)).served r requests).count? n := by
  intro h
  obtain ⟨hstored, hnot⟩ :
      Table.get? ((cousins ["A"] 0).served .standard [requestFor "A"]).outcomes ⟨"A"⟩
        = some cousinPassed ∧
      ((process .standard (requestFor "A").now (requestFor "A").id).runIn
        ((cousins ["A"] 0).served .standard [requestFor "A"])).result.toOption.any
          Outcome.isValid = false := by
    decide +kernel
  obtain ⟨o', hresult, hpassed, -⟩ := h [(⟨"A"⟩, cousinForm)] [] ⟨0, []⟩ .standard
    [requestFor "A"] (requestFor "A") cousinPassed hstored (by decide +kernel)
  have hresult : ((process .standard (requestFor "A").now (requestFor "A").id).runIn
      ((cousins ["A"] 0).served .standard [requestFor "A"])).result = .ok o' := hresult
  rw [hresult] at hnot
  exact Bool.false_ne_true (hnot.symm.trans hpassed)

end Birthright
