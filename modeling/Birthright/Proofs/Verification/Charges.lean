import Mathlib.Data.List.Basic
import Birthright.Proofs.Verification.Course
import Birthright.Proofs.Verification.Recount

/-!
# What the processing of one registration counts

The citations of a form are counted one after the other before the outcome is stored, and nothing is
taken back. Processing that ends early has counted what came before the call that failed; a number
that a form cites in two roles is counted for each of them.

* `usage_of_unpassed` — what stays counted although no pass was stored
* `count_process_bounds` — by how much one processing raises a count
-/

namespace Birthright

/-! ## The numbers that a form cites -/

namespace Applicant

/-- No number is cited twice in the same role. -/
theorem citations_nodup (a : Applicant) : a.citations.Nodup := by
  have hlabels : ParentRole.father.label ≠ ParentRole.mother.label := by decide
  unfold citations
  split
  · unfold parents
    cases a.fatherNin <;> cases a.motherNin <;> simp [hlabels]
  · split <;> simp

/-- Only a number that is given for both parents is cited twice. -/
theorem count_citations_le (a : Applicant) (n : Nin) :
    (a.citations.map Prod.fst).count n
      ≤ if a.fatherNin = some n ∧ a.motherNin = some n then 2 else 1 := by
  unfold citations
  split
  · unfold parents
    cases a.fatherNin with
    | none =>
      cases a.motherNin with
      | none => simp
      | some mother =>
        simp only [reduceCtorEq, false_and, if_false]
        exact List.count_le_length
    | some father =>
      cases a.motherNin with
      | none =>
        simp only [reduceCtorEq, and_false, if_false]
        exact List.count_le_length
      | some mother =>
        by_cases hfather : father = n
        · by_cases hmother : mother = n <;> simp [hfather, hmother]
        · by_cases hmother : mother = n <;> simp [hfather, hmother]
  · have hone : ∀ k, k ≤ 1 → k ≤ if a.fatherNin = some n ∧ a.motherNin = some n then 2 else 1 := by
      intro k hk
      split <;> omega
    refine hone _ (Nat.le_trans List.count_le_length ?_)
    split <;> simp

theorem count_citations_of_both {a : Applicant} {n : Nin} (hfather : a.fatherNin = some n)
    (hmother : a.motherNin = some n) : (a.citations.map Prod.fst).count n = 2 := by
  simp [citations, parents, hasParent, hfather, hmother]

end Applicant

/-! ## Processing that ends early -/

/-- What is counted of a form's citations before a call, if no pass is stored after that call. -/
def countedBefore (citations : List (Nin × String)) : Call → List (Nin × String)
  | .cite nin role => citations.takeWhile (· ≠ (nin, role))
  | .store o => if o.isValid then citations else []
  | .fields .. | .document .. | .isOverused .. | .fetch .. | .publish .. => []

variable {r : Rules} {q : Request} {m : Memory} {t : List Exchange}

/-- What comes before an element in a list that has it once. -/
theorem takeWhile_ne_of_nodup {α : Type} [DecidableEq α] {before after : List α} {x : α}
    (h : (before ++ x :: after).Nodup) : (before ++ x :: after).takeWhile (· ≠ x) = before := by
  have hne : ∀ y ∈ before, decide (y ≠ x) = true := fun y hy =>
    decide_eq_true (List.nodup_append.mp h |>.2.2 y hy x List.mem_cons_self)
  rw [List.takeWhile_append_of_pos hne, List.takeWhile_cons_of_neg (by simp), List.append_nil]

/-- Once all is counted, the citations were counted unless the registration had passed before. -/
theorem Charging.cited_of_ok {a : Applicant} (h : Charging a t (.ok ())) (ht : m.Truthful t) :
    t.filterMap Exchange.cited? = if m.hasPassed a.registrationId then [] else a.citations := by
  cases h with
  | @passedBefore o ho =>
    have hearlier : some o = Table.get? m.outcomes a.registrationId := ht.1
    rw [Memory.hasPassed, ← hearlier, Option.any_some, ho]
    rfl
  | @charged earlier hnew =>
    have hearlier : earlier = Table.get? m.outcomes a.registrationId := ht.1
    have hfetch : Exchange.cited? ⟨.fetch a.registrationId, .ok earlier⟩ = none := rfl
    rw [Memory.hasPassed, ← hearlier, hnew, List.filterMap_cons, hfetch, cited_citing]
    rfl

theorem Charging.stored {a : Applicant} {x : Except ServiceFailure Unit} (h : Charging a t x) :
    t.filterMap Exchange.stored? = [] := by
  have hfetch (answer) : Exchange.stored? ⟨.fetch a.registrationId, answer⟩ = none := rfl
  cases h with
  | notFetched e => rfl
  | passedBefore ho => rfl
  | @interrupted earlier cs rest c e hnew hcs =>
    have hlast : Exchange.stored? ⟨.cite c.1 c.2, .error e⟩ = none := rfl
    simp [hfetch, hlast]
  | charged hnew => simp [hfetch]

/-- Where the counting stops, the call that failed says what was counted. -/
theorem Charging.cited_of_error {a : Applicant} {e : ServiceFailure}
    (h : Charging a t (.error e)) :
    ∃ last, t.getLast? = some last ∧
      t.filterMap Exchange.cited? = countedBefore a.citations last.call := by
  cases h with
  | notFetched e => exact ⟨_, rfl, rfl⟩
  | @interrupted earlier cs rest c e hnew hcs =>
    have hfetch : Exchange.cited? ⟨.fetch a.registrationId, .ok earlier⟩ = none := rfl
    have hlast : Exchange.cited? ⟨.cite c.1 c.2, .error e⟩ = none := rfl
    have hnodup := a.citations_nodup
    rw [hcs] at hnodup
    refine ⟨⟨.cite c.1 c.2, .error e⟩, by simp [List.getLast?_cons], ?_⟩
    rw [countedBefore, hcs, takeWhile_ne_of_nodup hnodup]
    simp [hfetch, hlast]

/-- An outcome that did not pass and its event are no calls before which anything is counted. -/
theorem Concluding.last_of_not_valid {o : Outcome} {x : Except ServiceFailure Unit}
    (h : Concluding o t x) (hvalid : o.isValid = false) (citations : List (Nin × String)) :
    ∃ last, t.getLast? = some last ∧ countedBefore citations last.call = [] := by
  cases h with
  | notStored e => exact ⟨_, rfl, by simp [countedBefore, hvalid]⟩
  | notPublished e => exact ⟨_, rfl, rfl⟩
  | concluded => exact ⟨_, rfl, rfl⟩

/-- **Once an eligible applicant is dealt with**, the citations are counted unless the registration
had passed before. -/
theorem cited_of_accepted {asked charges u : List Exchange} {a : Applicant} {v : Verdict}
    {o : Outcome} {x : Except ServiceFailure Unit}
    (hassess : (assess r q.id).Yields asked (.ok (a, v))) (hcharge : Charging a charges (.ok ()))
    (hconclude : Concluding o u x) (ht : m.Truthful (asked ++ (charges ++ u))) :
    (asked ++ (charges ++ u)).filterMap Exchange.cited?
      = if m.hasPassed q.id then [] else (m.applicant q.id).citations := by
  obtain ⟨htrue, hrest⟩ := Memory.truthful_append.mp ht
  rw [m.foldl_after_of_questions (onlyAsked_of_assess hassess)] at hrest
  obtain rfl := eq_applicant_of_assess hassess htrue
  rw [cited_assess_append hassess, List.filterMap_append, hconclude.cited,
    hcharge.cited_of_ok (Memory.truthful_append.mp hrest).1, List.append_nil]
  rfl

/-- **Processing that ends with a failure and without a pass** has counted what its last call says. -/
theorem Course.cited_of_unpassed {e : ServiceFailure} (h : Course r q t (.error e))
    (ht : m.Truthful t) (hunpassed : (t.foldl Memory.after m).hasPassed q.id = false) :
    ∃ last, t.getLast? = some last ∧
      t.filterMap Exchange.cited? = countedBefore (m.applicant q.id).citations last.call := by
  generalize hx : (Except.error e : Except ServiceFailure Outcome) = y at h
  cases h with
  | failed hassess hconclude =>
    obtain ⟨last, hlast, hnone⟩ := hconclude.last_of_not_valid rfl (m.applicant q.id).citations
    refine ⟨last, List.mem_getLast?_append_of_mem_getLast? hlast, ?_⟩
    rw [cited_assess_append hassess, hconclude.cited, hnone]
  | @rejected _ _ _ v _ hassess hno hconclude =>
    have hvalid : (Outcome.ofVerdict q.id v q.now).isValid = false := by
      rw [isValid_ofVerdict, hno]
    obtain ⟨last, hlast, hnone⟩ := hconclude.last_of_not_valid hvalid (m.applicant q.id).citations
    refine ⟨last, List.mem_getLast?_append_of_mem_getLast? hlast, ?_⟩
    rw [cited_assess_append hassess, hconclude.cited, hnone]
  | stopped hassess hyes hcharge =>
    obtain ⟨last, hlast, hcited⟩ := hcharge.cited_of_error
    refine ⟨last, List.mem_getLast?_append_of_mem_getLast? hlast, ?_⟩
    rw [cited_assess_append hassess, hcited,
      ← eq_applicant_of_assess hassess (Memory.truthful_append.mp ht).1]
  | @accepted asked charges _ a v _ hassess hyes hcharge hconclude =>
    have hvalid : (Outcome.ofVerdict q.id v q.now).isValid = true := by
      rw [isValid_ofVerdict, hyes]
    have hcited := cited_of_accepted hassess hcharge hconclude ht
    rw [Memory.hasPassed_foldl_after, stored_assess_append hassess, List.filterMap_append,
      hcharge.stored, List.nil_append] at hunpassed
    cases hconclude with
    | notStored e =>
      -- Nothing was stored, so the registration had not passed before, and all was counted.
      have hnew : m.hasPassed q.id = false := hunpassed
      refine ⟨⟨.store (.ofVerdict q.id v q.now), .error e⟩,
        List.mem_getLast?_append_of_mem_getLast? (List.mem_getLast?_append_of_mem_getLast? rfl), ?_⟩
      have hall : countedBefore (m.applicant q.id).citations (.store (.ofVerdict q.id v q.now))
          = (m.applicant q.id).citations := if_pos hvalid
      rw [hcited, hnew, hall]
      rfl
    | notPublished e =>
      -- The pass was stored, although it was not made known.
      have hstored : [⟨.store (.ofVerdict q.id v q.now), .ok ()⟩,
          ⟨.publish (.ofOutcome (.ofVerdict q.id v q.now)), .error e⟩].filterMap Exchange.stored?
          = [.ofVerdict q.id v q.now] := rfl
      have hid : (Outcome.ofVerdict q.id v q.now).registrationId = q.id := rfl
      rw [hstored, List.foldl_cons, List.foldl_nil, if_pos hid, hvalid] at hunpassed
      cases hunpassed
    | concluded => cases hx

/-- A registration that passes was found eligible, charged, and stored. -/
theorem Course.of_passed {o : Outcome} (h : Course r q t (.ok o)) (hpassed : o.isValid = true) :
    ∃ asked charges u a v, t = asked ++ (charges ++ u) ∧
      (assess r q.id).Yields asked (.ok (a, v)) ∧ v.eligible = true ∧ Charging a charges (.ok ()) ∧
      Concluding o u (.ok ()) := by
  generalize hx : (Except.ok o : Except ServiceFailure Outcome) = y at h
  cases h with
  | @failed _ _ _ x _ _ => cases x <;> cases hx
  | @rejected _ _ _ v x _ hno _ =>
    cases x with
    | error e => cases hx
    | ok _ =>
      cases hx
      rw [isValid_ofVerdict, hno] at hpassed
      cases hpassed
  | stopped => cases hx
  | @accepted asked charges u a v x hassess hyes hcharge hconclude =>
    cases x with
    | error e => cases hx
    | ok _ =>
      cases hx
      exact ⟨asked, charges, u, a, v, rfl, hassess, hyes, hcharge, hconclude⟩

/-- A registration that passes for the first time has all its citations counted. -/
theorem Course.cited_of_passed {o : Outcome} (h : Course r q t (.ok o)) (hpassed : o.isValid = true)
    (ht : m.Truthful t) (hnew : m.hasPassed q.id = false) :
    t.filterMap Exchange.cited? = (m.applicant q.id).citations := by
  obtain ⟨asked, charges, u, a, v, rfl, hassess, -, hcharge, hconclude⟩ := h.of_passed hpassed
  rw [cited_of_accepted hassess hcharge hconclude ht, hnew]
  rfl

/-! ## Counts -/

/-- Counts that are raised by a list of citations stay only where they are the greatest ones. -/
theorem Ledger.count_charge_eq_iff (l : Ledger) (cs : List (Nin × String)) :
    (∀ n, (l.charge cs).count n = l.count n)
      ↔ ∀ n ∈ cs.map Prod.fst, (l.count n).toNat = UInt32.size - 1 := by
  have hcount (n : Nin) : (l.charge cs).count n = l.count n
      ↔ (cs.map Prod.fst).count n = 0 ∨ (l.count n).toNat = UInt32.size - 1 := by
    have hlt := (l.count n).toNat_lt_size
    rw [← UInt32.toNat_inj, count_charge]
    omega
  constructor
  · intro h n hn
    rcases (hcount n).mp (h n) with hzero | htop
    · exact absurd hn (List.count_eq_zero.mp hzero)
    · exact htop
  · intro h n
    refine (hcount n).mpr ?_
    by_cases hn : n ∈ cs.map Prod.fst
    · exact .inr (h n hn)
    · exact .inl (List.count_eq_zero.mpr hn)

/-- Counts never fall, and rise by no more than the form cites the number. -/
theorem Course.count_le {x : Except ServiceFailure Outcome} (h : Course r q t x)
    (ht : m.Truthful t) (l : Ledger) (n : Nin) :
    (l.count n).toNat ≤ ((l.charge (t.filterMap Exchange.cited?)).count n).toNat ∧
      ((l.charge (t.filterMap Exchange.cited?)).count n).toNat
        ≤ (l.count n).toNat + ((m.applicant q.id).citations.map Prod.fst).count n := by
  have hlt := (l.count n).toNat_lt_size
  have hle : ((t.filterMap Exchange.cited?).map Prod.fst).count n
      ≤ ((m.applicant q.id).citations.map Prod.fst).count n :=
    ((h.cited_isPrefix ht).sublist.map Prod.fst).count_le n
  rw [Ledger.count_charge]
  omega

/--
**What stays counted although no pass is stored**: if the processing ends with a failure and the
stored outcome is no pass, the last call says what was counted. A citation that failed leaves those
before it counted, a pass that could not be stored leaves all counted, and any other call leaves
none.
-/
theorem usage_of_unpassed (plan : Nat → Call → Option Fault) (r : Rules) (q : Request)
    (m : Memory) (k : Nat) (l : Ledger) (hl : m.usage = .ledger l)
    (herror : ((process r q.now q.id).run (Memory.failing plan) (m, k)).result.isOk = false)
    (hunpassed :
      ((process r q.now q.id).run (Memory.failing plan) (m, k)).state.1.hasPassed q.id = false) :
    ∃ c cs, ((process r q.now q.id).run (Memory.failing plan) (m, k)).calls.getLast? = some c ∧
      cs = countedBefore (m.applicant q.id).citations c ∧
      ((process r q.now q.id).run (Memory.failing plan) (m, k)).state.1.usage
        = .ledger (l.charge cs) ∧
      ((∀ n, (l.charge cs).count n = l.count n)
        ↔ ∀ n ∈ cs.map Prod.fst, (l.count n).toNat = UInt32.size - 1) := by
  obtain ⟨htruthful, hstate⟩ := truthful_exchanges plan (process r q.now q.id) m k
  have hcourse := course_of_run (Memory.failing plan) r q (m, k)
  obtain ⟨e, hresult⟩ :
      ∃ e, ((process r q.now q.id).run (Memory.failing plan) (m, k)).result = .error e := by
    revert herror
    cases ((process r q.now q.id).run (Memory.failing plan) (m, k)).result with
    | error e => exact fun _ => ⟨e, rfl⟩
    | ok o => exact fun h => nomatch h
  rw [hresult] at hcourse
  rw [hstate] at hunpassed ⊢
  obtain ⟨last, hlast, hcited⟩ := hcourse.cited_of_unpassed htruthful hunpassed
  refine ⟨last.call, _, ?_, rfl, ?_, l.count_charge_eq_iff _⟩
  · rw [Inquiry.calls_run, List.getLast?_map, hlast]
    rfl
  · rw [Memory.usage_foldl_after hl, hcited]

/-- Outcomes cannot be stored. -/
def storeFails (_ : Nat) : Call → Option Fault
  | .store _ => some (.unavailable "")
  | _ => none

/-- The citation of a registration that would pass is counted, but the pass is not stored. -/
theorem run_storeFails :
    ((process .standard (requestFor "A").now ⟨"A"⟩).run (Memory.failing storeFails)
      (cousins ["A"] 5, 0)).result.isOk = false ∧
    ((process .standard (requestFor "A").now ⟨"A"⟩).run (Memory.failing storeFails)
      (cousins ["A"] 5, 0)).state.1.hasPassed ⟨"A"⟩ = false ∧
    ((process .standard (requestFor "A").now ⟨"A"⟩).run (Memory.failing storeFails)
      (cousins ["A"] 5, 0)).state.1.count? ⟨"G"⟩ = some 1 := by
  decide +kernel

theorem usage_of_unstored_pass :
    ∃ c cs, ((process .standard (requestFor "A").now ⟨"A"⟩).run (Memory.failing storeFails)
        (cousins ["A"] 5, 0)).calls.getLast? = some c ∧
      cs = countedBefore ((cousins ["A"] 5).applicant ⟨"A"⟩).citations c ∧
      ((process .standard (requestFor "A").now ⟨"A"⟩).run (Memory.failing storeFails)
        (cousins ["A"] 5, 0)).state.1.usage = .ledger ((Ledger.mk 5 []).charge cs) ∧
      ((∀ n, ((Ledger.mk 5 []).charge cs).count n = (Ledger.mk 5 []).count n)
        ↔ ∀ n ∈ cs.map Prod.fst, ((Ledger.mk 5 []).count n).toNat = UInt32.size - 1) :=
  usage_of_unpassed storeFails .standard (requestFor "A") (cousins ["A"] 5) 0 ⟨5, []⟩ rfl
    run_storeFails.1 run_storeFails.2.1

/-- **A citation may be counted without a pass**: the pass could not be stored. -/
theorem counted_without_pass :
    ¬∀ (packets : Table RegistrationId (Table String String)) (registry : Table Nin Document)
      (l : Ledger) (plan : Nat → Call → Option Fault) (r : Rules) (q : Request) (n : Nin),
      (∀ k c, c.isQuestion = true → plan k c = none) →
      ((process r q.now q.id).run (Memory.failing plan)
        (Memory.fresh packets registry (.ledger l), 0)).result.isOk = false →
      ((process r q.now q.id).run (Memory.failing plan)
        (Memory.fresh packets registry (.ledger l), 0)).state.1.hasPassed q.id = false →
      ((process r q.now q.id).run (Memory.failing plan)
        (Memory.fresh packets registry (.ledger l), 0)).state.1.count? n
          = (Memory.fresh packets registry (.ledger l)).count? n := by
  intro h
  have hplan : ∀ k c, Call.isQuestion c = true → storeFails k c = none := by
    intro k c hc
    cases c <;> first | rfl | cases hc
  obtain ⟨herror, hunpassed, hcount⟩ := run_storeFails
  have hsame := h [(⟨"A"⟩, cousinForm)] [] ⟨5, []⟩ storeFails .standard (requestFor "A") ⟨"G"⟩ hplan
    herror hunpassed
  have hone : (Memory.fresh [(⟨"A"⟩, cousinForm)] [] (.ledger ⟨5, []⟩)).count? ⟨"G"⟩ = some 1 :=
    hsame.symm.trans hcount
  revert hone
  decide

/--
**By how much one processing raises a count**: by one at most, and by two at most if the number is
given for both parents. In the latter case it is raised by two when the registration passes for the
first time, up to the greatest count.
-/
theorem count_process_bounds (plan : Nat → Call → Option Fault) (r : Rules) (q : Request)
    (m : Memory) (k : Nat) (l : Ledger) (n : Nin) (hl : m.usage = .ledger l) :
    ∃ l', ((process r q.now q.id).run (Memory.failing plan) (m, k)).state.1.usage = .ledger l' ∧
      (l.count n).toNat ≤ (l'.count n).toNat ∧
      (l'.count n).toNat ≤ (l.count n).toNat +
        (if (m.applicant q.id).fatherNin = some n ∧ (m.applicant q.id).motherNin = some n
          then 2 else 1) ∧
      ∀ o, ((process r q.now q.id).run (Memory.failing plan) (m, k)).result = .ok o →
        o.isValid = true → m.hasPassed q.id = false →
        (m.applicant q.id).fatherNin = some n → (m.applicant q.id).motherNin = some n →
        (l'.count n).toNat = min (UInt32.size - 1) ((l.count n).toNat + 2) := by
  obtain ⟨htruthful, hstate⟩ := truthful_exchanges plan (process r q.now q.id) m k
  have hcourse := course_of_run (Memory.failing plan) r q (m, k)
  obtain ⟨hge, hle⟩ := hcourse.count_le htruthful l n
  refine ⟨_, by rw [hstate, Memory.usage_foldl_after hl], hge,
    Nat.le_trans hle (Nat.add_le_add_left ((m.applicant q.id).count_citations_le n) _), ?_⟩
  intro o ho hpassed hnew hfather hmother
  rw [ho] at hcourse
  rw [hcourse.cited_of_passed hpassed htruthful hnew, Ledger.count_charge,
    Applicant.count_citations_of_both hfather hmother]

/-- A form on which the same number, "P", is given for both parents. -/
def oneParentForm : Table String String :=
  [("applicantCitizenshipType", "[\x7b\"value\":\"birth\"\x7d]"), ("dateOfBirth", "2000/01/01"),
   ("applicantTribe", "[\x7b\"value\":\"T\"\x7d]"), ("applicantClan", "[\x7b\"value\":\"C\"\x7d]"),
   ("fatherNIN", "P"), ("motherNIN", "P")]

/-- What the registry says about this parent. -/
def oneParent : Document where
  fields := [("dateOfBirth", .str "1970/01/01"), ("tribe", .str "[\x7b\"value\":\"T\"\x7d]"),
    ("clan", .str "[\x7b\"value\":\"C\"\x7d]")]

/-- A memory of a registration with this form, whose parent was not cited before. -/
def oneParentMemory : Memory :=
  .fresh [(⟨"A"⟩, oneParentForm)] [(⟨"P"⟩, oneParent)] (.ledger ⟨5, []⟩)

theorem count_process_of_one_parent :
    ∃ l', ((process .standard (requestFor "A").now ⟨"A"⟩).run (Memory.failing fun _ _ => none)
        (oneParentMemory, 0)).state.1.usage = .ledger l' ∧ (l'.count ⟨"P"⟩).toNat = 2 := by
  obtain ⟨l', hl', -, -, htwo⟩ := count_process_bounds (fun _ _ => none) .standard (requestFor "A")
    oneParentMemory 0 ⟨5, []⟩ ⟨"P"⟩ rfl
  have hpassed : ((process .standard (requestFor "A").now (requestFor "A").id).run
      (Memory.failing fun _ _ => none) (oneParentMemory, 0)).result.toOption.any
        Outcome.isValid = true := by decide +kernel
  refine ⟨l', hl', ?_⟩
  cases hresult : ((process .standard (requestFor "A").now (requestFor "A").id).run
      (Memory.failing fun _ _ => none) (oneParentMemory, 0)).result with
  | error e =>
    rw [hresult] at hpassed
    cases hpassed
  | ok o =>
    rw [hresult] at hpassed
    rw [htwo o hresult hpassed rfl (by decide +kernel) (by decide +kernel)]
    decide

/-- **One registration may be counted twice for a number** that it gives for both parents. -/
theorem counted_for_both_parents :
    ¬∀ (packets : Table RegistrationId (Table String String)) (registry : Table Nin Document)
      (l : Ledger) (r : Rules) (q : Request) (n : Nin) (c : UInt32),
      ((process r q.now q.id).runIn (.fresh packets registry (.ledger l))).state.count? n = some c →
      c.toNat ≤ (l.count n).toNat + 1 := by
  intro h
  have honce := h [(⟨"A"⟩, oneParentForm)] [(⟨"P"⟩, oneParent)] ⟨5, []⟩ .standard (requestFor "A")
    ⟨"P"⟩ 2 (by decide +kernel)
  revert honce
  decide +kernel

end Birthright
