import Mathlib.Algebra.BigOperators.Group.Finset.Basic
import Birthright.Proofs.Verification.Undisturbed

/-!
# The accounts of the ledger

If nothing fails, the ledger can be checked against the outcomes: each registration that ever passed
was counted once for each of its citations, and no other one was counted. For who was not eligible
once is never eligible later, so that a pass that is lost does not come back.

* `mem_everPassed_iff` — who ever passed was told so
* `not_mem_everPassed` — who is not eligible does not pass later
* `count_served` — the counts after registrations were processed one after the other
* `ledger_accounts` — the accounts from the beginning
-/

namespace Birthright

open scoped List

/-- Whether an outcome that passes was stored. -/
def Handling.passed (h : Handling) : Bool :=
  (h.exchanges.filterMap Exchange.stored?).any Outcome.isValid

/-- The registrations that were stored as passing at least once. -/
def everPassed (hs : List Handling) : Finset RegistrationId :=
  ((hs.filter Handling.passed).map Handling.id).toFinset

/-- The statuses that were stored one after the other. -/
def statuses (t : List Exchange) : List Status := (t.filterMap Exchange.stored?).map Outcome.status

theorem passes_eq_map_statuses (t : List Exchange) :
    passes t = (statuses t).map fun s => decide (s = .passed) := by
  rw [passes, statuses, List.map_map]
  rfl

/-- How often the form of a registration cites a number. -/
def Memory.citationCount (m : Memory) (n : Nin) (id : RegistrationId) : Nat :=
  ((m.applicant id).citations.map Prod.fst).count n

variable {r : Rules} {m m' : Memory} {l : Ledger} {id : RegistrationId}

/-- What is done for the first registration, and for the others in the memory after it. -/
theorem serve_cons (m : Memory) (r : Rules) (q : Request) (rest : List Request) :
    serve Memory.collaborators r (q :: rest) m
      = ⟨q.id, (process r q.now q.id).exchanges Memory.collaborators m⟩ ::
        serve Memory.collaborators r rest (m.processed r q) := rfl

theorem everPassed_cons (h : Handling) (hs : List Handling) :
    everPassed (h :: hs) = if h.passed then insert h.id (everPassed hs) else everPassed hs := by
  unfold everPassed
  rw [List.filter_cons]
  split
  · rw [List.map_cons, List.toFinset_cons]
  · rfl

/-- The statuses of a registration contain a pass exactly if it ever passed. -/
theorem true_mem_passes_iff {hs : List Handling} :
    true ∈ passes (doneFor id hs) ↔ id ∈ everPassed hs := by
  induction hs with
  | nil => simp [passes, doneFor, everPassed]
  | cons h hs ih =>
    have hhead : true ∈ passes h.exchanges ↔ h.passed = true := by
      rw [passes, Handling.passed, List.mem_map, List.any_eq_true]
    rw [doneFor_cons, passes_append, List.mem_append, ih, everPassed_cons]
    by_cases hid : h.id = id
    · rw [if_pos hid, hhead]
      cases h.passed <;> simp [hid]
    · have hne : id ≠ h.id := fun heq => hid heq.symm
      rw [if_neg hid]
      cases h.passed <;> simp [hne, passes]

theorem Undisturbed.passed {q : Request} {v : Verdict} {t : List Exchange}
    {x : Except ServiceFailure Outcome} (h : Undisturbed r m q v t x) :
    (Handling.mk q.id t).passed = v.eligible := by
  rw [Handling.passed, h.stored, List.any_cons, List.any_nil, Bool.or_false, isValid_ofVerdict]

/-- Whether the processing of a registration gives back an outcome that passes. -/
def Memory.givesPass (m : Memory) (r : Rules) (q : Request) : Bool :=
  ((process r q.now q.id).runIn m).result.toOption.any Outcome.isValid

theorem Undisturbed.givesPass {q : Request} {v : Verdict} {t : List Exchange}
    (h : Undisturbed r m q v t ((process r q.now q.id).runIn m).result) :
    m.givesPass r q = v.eligible := by
  rw [Memory.givesPass, h.result]
  exact isValid_ofVerdict _ _ _

/-- **A registration ever passed** exactly if its processing once gave back that it passes. -/
theorem mem_everPassed_iff (hm : m.outages = []) (hl : m.usage = .ledger l)
    (requests : List Request) :
    id ∈ everPassed (serve Memory.collaborators r requests m) ↔
      ∃ before q after, requests = before ++ q :: after ∧ q.id = id ∧
        (m.served r before).givesPass r q = true := by
  induction requests generalizing m l with
  | nil => simp [serve, everPassed]
  | cons q rest ih =>
    obtain ⟨v, hv⟩ := Memory.process_undisturbed hm r q
    have hrest := ih ((Memory.later_processed hl r q).outages hm) (Memory.usage_processed hl r q)
    have hfirst : id ∈ everPassed (serve Memory.collaborators r (q :: rest) m) ↔
        (q.id = id ∧ m.givesPass r q = true) ∨
          id ∈ everPassed (serve Memory.collaborators r rest (m.processed r q)) := by
      rw [serve_cons, everPassed_cons, hv.passed, hv.givesPass]
      cases v.eligible with
      | false => simp
      | true => simp [eq_comm]
    rw [hfirst, hrest]
    constructor
    · rintro (⟨hid, hpass⟩ | ⟨before, q', after, rfl, hid, hpass⟩)
      · exact ⟨[], q, rest, rfl, hid, hpass⟩
      · exact ⟨q :: before, q', after, rfl, hid, hpass⟩
    · rintro ⟨before, q', after, hsplit, hid, hpass⟩
      cases before with
      | nil =>
        obtain ⟨rfl, rfl⟩ := List.cons.inj hsplit
        exact .inl ⟨hid, hpass⟩
      | cons q'' before =>
        obtain ⟨rfl, rfl⟩ := List.cons.inj hsplit
        exact .inr ⟨before, q', after, rfl, hid, hpass⟩

/-- **Who is not eligible** does not pass later. -/
theorem not_mem_everPassed (hm : m.outages = [])
    (hno : ¬((evaluateApplicant r (m.applicant id)).resultWith m.answers).Eligible)
    (requests : List Request) (hlater : m.Later m') (hl : m'.usage = .ledger l) :
    id ∉ everPassed (serve Memory.collaborators r requests m') := by
  induction requests generalizing m' l with
  | nil => exact Finset.notMem_empty id
  | cons q rest ih =>
    obtain ⟨v, hv⟩ := Memory.process_undisturbed (hlater.outages hm) r q
    have hrest := ih (hlater.trans (Memory.later_processed hl r q)) (Memory.usage_processed hl r q)
    rw [serve_cons, everPassed_cons, hv.passed]
    cases hyes : v.eligible with
    | false => exact hrest
    | true =>
      rw [if_pos rfl]
      refine fun hmem => (Finset.mem_insert.mp hmem).elim (fun hid => ?_) hrest
      -- The later verdict would make the applicant eligible before.
      subst hid
      have heligible := Finding.eligible_ok.mpr hyes
      rw [← hv.verdict_eq, hlater.applicant] at heligible
      exact hno (Eligible.of_stricter (.refl r) (hlater.stricter hm) (Memory.answered hm) heligible)

/-- A registration that was not stored as passing when it was processed does not pass later. -/
theorem Undisturbed.not_mem_everPassed {q : Request} {v : Verdict} {t : List Exchange}
    {x : Except ServiceFailure Outcome} (h : Undisturbed r m q v t x) (hm : m.outages = [])
    (hl : m.usage = .ledger l) (hno : v.eligible = false) (requests : List Request) :
    q.id ∉ everPassed (serve Memory.collaborators r requests (m.processed r q)) := by
  refine Birthright.not_mem_everPassed hm ?_ requests (Memory.later_processed hl r q)
    (Memory.usage_processed hl r q)
  rw [h.verdict_eq, Finding.eligible_ok, hno]
  exact Bool.false_ne_true

/-- **No pass comes back**: the outcomes of a registration do not change to passed. -/
theorem not_rises (hm : m.outages = []) (hl : m.usage = .ledger l) (requests : List Request) :
    ¬[false, true] <+ passes (doneFor id (serve Memory.collaborators r requests m)) := by
  induction requests generalizing m l with
  | nil => simp [serve, doneFor, passes]
  | cons q rest ih =>
    obtain ⟨v, hv⟩ := Memory.process_undisturbed hm r q
    have hrest := ih ((Memory.later_processed hl r q).outages hm) (Memory.usage_processed hl r q)
    rw [serve, doneFor_cons]
    by_cases hid : q.id = id
    · subst hid
      rw [if_pos rfl, passes_append, hv.passes, List.singleton_append]
      intro hsub
      rcases List.sublist_cons_iff.mp hsub with hlater | ⟨later, hcons, htrue⟩
      · exact hrest hlater
      · -- The change would begin with this outcome, and what follows would have a pass.
        obtain ⟨hno, rfl⟩ := List.cons.inj hcons
        exact hv.not_mem_everPassed hm hl hno.symm rest
          (true_mem_passes_iff.mp (List.singleton_sublist.mp htrue))
    · rw [if_neg hid]
      exact hrest

/-! ## Counts -/

/-- The registrations that were stored as passing and had not passed before. -/
def newlyPassed (m : Memory) (hs : List Handling) : Finset RegistrationId :=
  (everPassed hs).filter (m.hasPassed · = false)

section Step

variable {q : Request} {v : Verdict} {t : List Exchange} {x : Except ServiceFailure Outcome}

/-- A registration that passes for the first time is one more. -/
theorem Undisturbed.newlyPassed_cons_of_new (h : Undisturbed r m q v t x) (hs : List Handling)
    (hyes : v.eligible = true) (hnew : m.hasPassed q.id = false) :
    newlyPassed m (⟨q.id, t⟩ :: hs) = insert q.id (newlyPassed (t.foldl Memory.after m) hs) ∧
      q.id ∉ newlyPassed (t.foldl Memory.after m) hs := by
  unfold newlyPassed
  rw [everPassed_cons, h.passed, hyes, if_pos rfl]
  constructor
  · ext id
    rw [Finset.mem_filter, Finset.mem_insert, Finset.mem_insert, Finset.mem_filter, h.hasPassed]
    by_cases hid : q.id = id
    · subst hid
      simp [hnew]
    · have hne : id ≠ q.id := fun heq => hid heq.symm
      simp [hid, hne]
  · rw [Finset.mem_filter, h.hasPassed, if_pos rfl, hyes]
    exact fun hmem => Bool.noConfusion hmem.2

/-- Otherwise there are none but those that follow. -/
theorem Undisturbed.newlyPassed_cons_of_old (h : Undisturbed r m q v t x) {hs : List Handling}
    (hold : v.eligible = true → m.hasPassed q.id = true)
    (hno : v.eligible = false → q.id ∉ everPassed hs) :
    newlyPassed m (⟨q.id, t⟩ :: hs) = newlyPassed (t.foldl Memory.after m) hs := by
  unfold newlyPassed
  rw [everPassed_cons, h.passed]
  ext id
  rw [Finset.mem_filter, Finset.mem_filter, h.hasPassed]
  by_cases hid : q.id = id
  · subst hid
    cases hyes : v.eligible with
    | true => simp [hold hyes]
    | false => simp [hno hyes]
  · have hne : id ≠ q.id := fun heq => hid heq.symm
    rw [if_neg hid]
    cases v.eligible <;> simp [hne]

end Step

/--
**The counts after registrations were processed**: each number was counted once for each of its
citations by a registration that passed and had not passed before.
-/
theorem count_served (hm : m.outages = []) (hl : m.usage = .ledger l) (requests : List Request)
    (n : Nin) :
    ∃ l', (m.served r requests).usage = .ledger l' ∧
      (l'.count n).toNat = min (UInt32.size - 1) ((l.count n).toNat +
        ∑ id ∈ newlyPassed m (serve Memory.collaborators r requests m), m.citationCount n id) := by
  induction requests generalizing m l with
  | nil =>
    have hlt := (l.count n).toNat_lt_size
    refine ⟨l, hl, ?_⟩
    simp only [serve, newlyPassed, everPassed, List.filter_nil, List.map_nil, List.toFinset_nil,
      Finset.filter_empty, Finset.sum_empty]
    omega
  | cons q rest ih =>
    obtain ⟨v, hv⟩ := Memory.process_undisturbed hm r q
    have hlater := Memory.later_processed hl r q
    obtain ⟨l', hl', hcount⟩ := ih (hlater.outages hm) (Memory.usage_processed hl r q)
    have hcitations : (m.processed r q).citationCount n = m.citationCount n := by
      funext id
      rw [Memory.citationCount, hlater.applicant, Memory.citationCount]
    refine ⟨l', hl', ?_⟩
    rw [serve_cons, hcount, hcitations, Ledger.count_charge, hv.cited]
    by_cases hnew : v.eligible = true ∧ m.hasPassed q.id = false
    · obtain ⟨hcons, hnot⟩ := hv.newlyPassed_cons_of_new
        (serve Memory.collaborators r rest (m.processed r q)) hnew.1 hnew.2
      rw [← Memory.processed_eq] at hcons hnot
      have hone : ((m.applicant q.id).citations.map Prod.fst).count n = m.citationCount n q.id := rfl
      rw [if_pos hnew, hcons, Finset.sum_insert hnot, hone]
      omega
    · have hsame := hv.newlyPassed_cons_of_old
        (fun hyes => Bool.eq_true_of_not_eq_false fun h => hnew ⟨hyes, h⟩)
        (fun hno => hv.not_mem_everPassed hm hl hno rest)
      rw [← Memory.processed_eq] at hsame
      rw [if_neg hnew, hsame, List.map_nil, List.count_nil]
      omega

/--
**The accounts of the ledger**: from the beginning each number was counted once for each of its
citations by a registration that ever passed, which is one whose processing once gave back that it
passes. What is stored for a registration does not change from passed to manual review and to passed
again, and what does not pass is not counted.
-/
theorem ledger_accounts (packets : Table RegistrationId (Table String String))
    (registry : Table Nin Document) (l : Ledger) (r : Rules) (requests : List Request) (n : Nin) :
    (((Memory.fresh packets registry (.ledger l)).served r requests).count? n).map UInt32.toNat
      = some (min (UInt32.size - 1) ((l.count n).toNat +
        ∑ id ∈ everPassed (serve Memory.collaborators r requests
          (.fresh packets registry (.ledger l))),
          (Memory.fresh packets registry (.ledger l)).citationCount n id)) ∧
    (∀ id, id ∈ everPassed (serve Memory.collaborators r requests
        (.fresh packets registry (.ledger l))) ↔
      ∃ before q after, requests = before ++ q :: after ∧ q.id = id ∧
        ((Memory.fresh packets registry (.ledger l)).served r before).givesPass r q = true) ∧
    (∀ id, ¬[.passed, .manualReview, .passed] <+ statuses (doneFor id
      (serve Memory.collaborators r requests (.fresh packets registry (.ledger l))))) ∧
    ∀ q o, ((process r q.now q.id).runIn
        ((Memory.fresh packets registry (.ledger l)).served r requests)).result = .ok o →
      o.isValid = false →
      (((Memory.fresh packets registry (.ledger l)).served r (requests ++ [q])).count? n)
        = ((Memory.fresh packets registry (.ledger l)).served r requests).count? n := by
  generalize hm : Memory.fresh packets registry (.ledger l) = m
  have houtages : m.outages = [] := by rw [← hm]; rfl
  have husage : m.usage = .ledger l := by rw [← hm]; rfl
  have hnone (id : RegistrationId) : m.hasPassed id = false := by rw [← hm]; rfl
  obtain ⟨hlater, -⟩ := Memory.later_served husage r requests
  obtain ⟨l', hl', hcount⟩ := count_served houtages husage (r := r) requests n
  refine ⟨?_, fun id => mem_everPassed_iff houtages husage requests, fun id hsub => ?_,
    fun q o ho hno => ?_⟩
  · have hall : newlyPassed m (serve Memory.collaborators r requests m)
        = everPassed (serve Memory.collaborators r requests m) :=
      Finset.filter_true_of_mem fun id _ => hnone id
    rw [← hall, ← hcount, Memory.count?, hl']
    rfl
  · have hpasses := hsub.map fun s => decide (s = Status.passed)
    rw [← passes_eq_map_statuses] at hpasses
    exact not_rises houtages husage requests
      ((List.sublist_cons_self true [false, true]).trans hpasses)
  · obtain ⟨v, hv⟩ := Memory.process_undisturbed (hlater.outages houtages) r q
    have hvalid : v.eligible = false := by
      rw [hv.result] at ho
      rw [← hno, ← Except.ok.inj ho, isValid_ofVerdict]
    have hnothing : ¬(v.eligible = true ∧ (m.served r requests).hasPassed q.id = false) := by
      rw [hvalid]
      exact fun h => Bool.false_ne_true h.1
    rw [Memory.served_append, Memory.count?, Memory.usage_processed hl', hv.cited, if_neg hnothing,
      Memory.count?, hl']
    rfl

theorem ledger_accounts_of_lost_pass :
    ⟨"A"⟩ ∈ everPassed (serve Memory.collaborators .standard [requestFor "A"] (cousins ["A"] 0)) ∧
      ((cousins ["A"] 0).served .standard [requestFor "A"]).givesPass .standard (requestFor "A")
        = false ∧
      ((cousins ["A"] 0).served .standard [requestFor "A"]).count? ⟨"G"⟩ = some 1 ∧
      ((cousins ["A"] 0).served .standard [requestFor "A", requestFor "A"]).count? ⟨"G"⟩
        = some 1 := by
  obtain ⟨-, hpassed, -, hnothing⟩ := ledger_accounts [(⟨"A"⟩, cousinForm)] [] ⟨0, []⟩ .standard
    [requestFor "A"] ⟨"G"⟩
  obtain ⟨hfirst, houtages, hlost, hcount⟩ :
      (cousins ["A"] 0).givesPass .standard (requestFor "A") = true ∧
      ((cousins ["A"] 0).served .standard [requestFor "A"]).outages = [] ∧
      ((cousins ["A"] 0).served .standard [requestFor "A"]).givesPass .standard (requestFor "A")
        = false ∧
      ((cousins ["A"] 0).served .standard [requestFor "A"]).count? ⟨"G"⟩ = some 1 := by
    decide +kernel
  obtain ⟨v, hv⟩ := Memory.process_undisturbed houtages .standard (requestFor "A")
  have hno : (Outcome.ofVerdict (requestFor "A").id v (requestFor "A").now).isValid = false := by
    rw [isValid_ofVerdict, ← hv.givesPass, hlost]
  exact ⟨(hpassed _).mpr ⟨[], requestFor "A", [], rfl, rfl, hfirst⟩, hlost, hcount,
    (hnothing (requestFor "A") _ hv.result hno).trans hcount⟩

end Birthright
