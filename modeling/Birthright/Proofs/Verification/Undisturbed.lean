import Birthright.Proofs.Eligibility.Renewal
import Birthright.Proofs.Verification.Charges

/-!
# Processing without failures

If no collaborator fails, the processing of a registration comes to a verdict, and the verdict says
what is counted and stored. Counts only grow, so that the answers of the memory get stricter from
one registration to the next.

* `process_undisturbed` — what the processing of a registration does
* `later_served` — the memory after registrations were processed one after the other
-/

namespace Birthright

namespace Memory

variable {m m' m'' : Memory}

/-! ## Answers of a memory -/

/-- How a memory answers while it does not change. -/
def answers (m : Memory) (c : Call) : c.Answer := (m.answer c).1

theorem answers_document (hm : m.outages = []) (nin : Nin) :
    m.answers (.document nin) = .ok (Table.get? m.registry nin) := by
  unfold answers answer
  rw [hm]
  rfl

theorem answers_isOverused (hm : m.outages = []) (nin : Nin) (role : String) :
    m.answers (.isOverused nin role) = .ok (m.isOverused nin) := by
  unfold answers answer
  rw [hm]
  rfl

theorem answers_fields (hm : m.outages = []) (id : RegistrationId) (names : List String) :
    m.answers (.fields id names) = .ok (m.fieldsOf id names) := by
  unfold answers answer
  rw [hm]
  rfl

/-- What comes back from a question that does not fail is the answer of the memory. -/
theorem answer_eq_answers (hm : m.outages = []) {e : Exchange} (hallows : m.Allows e)
    (hquestion : e.call.isQuestion = true) (hfail : e.isFailure = false) :
    e.answer = m.answers e.call := by
  obtain ⟨c, answer⟩ := e
  cases c with
  | fields id names =>
    cases answer with
    | error _ => cases hfail
    | ok fields => rw [answers_fields hm, hallows]
  | document nin =>
    cases answer with
    | error _ => cases hfail
    | ok d => rw [answers_document hm, hallows]
  | isOverused nin role =>
    cases answer with
    | error _ => cases hfail
    | ok b => rw [answers_isOverused hm, hallows]
  | cite => cases hquestion
  | fetch => cases hquestion
  | store => cases hquestion
  | publish => cases hquestion

theorem answered (hm : m.outages = []) : Answered m.answers :=
  fun nin => ⟨_, answers_document hm nin⟩

/-! ## Later memories -/

/-- The second memory has the same sources, and who was overused in the first one still is. -/
structure Later (m m' : Memory) : Prop where
  sources : m.SameSources m'
  overused : ∀ n, m.isOverused n = true → m'.isOverused n = true

theorem Later.refl (m : Memory) : m.Later m := ⟨⟨rfl, rfl, rfl⟩, fun _ h => h⟩

theorem Later.trans (h : m.Later m') (h' : m'.Later m'') : m.Later m'' :=
  ⟨h.sources.trans h'.sources, fun n hn => h'.overused n (h.overused n hn)⟩

theorem Later.applicant (h : m.Later m') (id : RegistrationId) : m'.applicant id = m.applicant id :=
  applicant_congr h.sources.packets id

theorem Later.outages (h : m.Later m') (hm : m.outages = []) : m'.outages = [] :=
  h.sources.outages.trans hm

/-- **A later memory gives stricter answers.** -/
theorem Later.stricter (h : m.Later m') (hm : m.outages = []) : Stricter m.answers m'.answers := by
  constructor
  · intro nin
    rw [answers_document hm, answers_document (h.outages hm), h.sources.registry]
  · intro nin role hcleared
    rw [answers_isOverused (h.outages hm)] at hcleared
    have hnot : m'.isOverused nin = false := Except.ok.inj hcleared
    rw [answers_isOverused hm]
    cases hbefore : m.isOverused nin with
    | false => rfl
    | true =>
      rw [h.overused nin hbefore] at hnot
      cases hnot

/-- Whatever is exchanged, the memory afterwards is a later one. -/
theorem later_foldl_after {l : Ledger} (hl : m.usage = .ledger l) (t : List Exchange) :
    m.Later (t.foldl after m) := by
  refine ⟨m.sources_foldl_after t, fun n hn => ?_⟩
  unfold isOverused at hn ⊢
  rw [hl] at hn
  rw [usage_foldl_after hl]
  exact Ledger.isOverused_charge hn _

/-- The outcome that a registration has after a history is the last one that was stored for it. -/
theorem get?_outcomes_foldl_after (m : Memory) (t : List Exchange) (id : RegistrationId) :
    Table.get? (t.foldl after m).outcomes id = (t.filterMap Exchange.stored?).foldl
      (fun found o => if o.registrationId = id then some o else found)
      (Table.get? m.outcomes id) := by
  induction t generalizing m with
  | nil => rfl
  | cons e t ih =>
    rw [List.foldl_cons, ih, outcomes_after, List.filterMap_cons]
    cases e.stored? with
    | none => rfl
    | some o => rw [List.foldl_cons, Table.get?_insert]

end Memory

/-! ## Parts of the processing that do not fail -/

section Parts

variable {r : Rules} {m : Memory} {t : List Exchange}

/-- **An evaluation that is not disturbed** comes to a verdict on the applicant of the memory. -/
theorem assess_undisturbed {id : RegistrationId}
    {y : Except EvaluationFailure (Applicant × Verdict)} (hm : m.outages = [])
    (h : (assess r id).Yields t y) (ht : m.Truthful t) (hfail : ∀ e ∈ t, e.isFailure = false) :
    ∃ v asked, y = .ok (m.applicant id, v) ∧
      (evaluateApplicant r (m.applicant id)).Yields asked (.ok v) ∧
      (∀ e ∈ asked, e.answer = m.answers e.call) ∧ vouching? t = vouching? asked := by
  have hasked := onlyAsked_of_assess h
  have htrue : ∀ e ∈ t, e.answer = m.answers e.call := fun e he =>
    Memory.answer_eq_answers hm (hasked.allowed ht he) (hasked e he) (hfail e he)
  cases assess_course h with
  | notFetched e => exact absurd (hfail _ List.mem_cons_self) (by simp [Exchange.isFailure])
  | @evaluated fields asked f hevaluate =>
    have hform : fields = m.fieldsOf id FormField.names := ht.1
    subst hform
    have htrue : ∀ e ∈ asked, e.answer = m.answers e.call := fun e he =>
      htrue e (List.mem_cons_of_mem _ he)
    obtain ⟨v, hv⟩ := evaluateApplicant_answered (r := r) (a := m.applicant id)
      (Memory.answered hm)
    have hf : f = .ok v := (Inquiry.resultWith_of_yields hevaluate htrue).symm.trans hv
    subst hf
    exact ⟨v, asked, rfl, hevaluate, htrue, rfl⟩

theorem Charging.undisturbed {a : Applicant} {x : Except ServiceFailure Unit}
    (h : Charging a t x) (hfail : ∀ e ∈ t, e.isFailure = false) :
    x = .ok () ∧ t.filterMap Exchange.check? = [] := by
  have hfetch (answer) : Exchange.check? ⟨.fetch a.registrationId, answer⟩ = none := rfl
  cases h with
  | notFetched e => exact absurd (hfail _ List.mem_cons_self) (by simp [Exchange.isFailure])
  | passedBefore ho => exact ⟨rfl, rfl⟩
  | interrupted e hnew hcs =>
    exact absurd (hfail _ (List.mem_cons_of_mem _ (List.mem_append_right _ List.mem_cons_self)))
      (by simp [Exchange.isFailure])
  | charged hnew => exact ⟨rfl, by simp [hfetch]⟩

theorem Concluding.undisturbed {o : Outcome} {x : Except ServiceFailure Unit}
    (h : Concluding o t x) (hfail : ∀ e ∈ t, e.isFailure = false) :
    x = .ok () ∧ t = concluding o := by
  cases h with
  | notStored e => exact absurd (hfail _ List.mem_cons_self) (by simp [Exchange.isFailure])
  | notPublished e =>
    exact absurd (hfail _ (List.mem_cons_of_mem _ List.mem_cons_self))
      (by simp [Exchange.isFailure])
  | concluded => exact ⟨rfl, rfl⟩

end Parts

/-! ## The whole processing -/

/-- What the processing of a registration does that comes to a verdict without a failure. -/
structure Undisturbed (r : Rules) (m : Memory) (q : Request) (v : Verdict)
    (t : List Exchange) (x : Except ServiceFailure Outcome) : Prop where
  result : x = .ok (.ofVerdict q.id v q.now)
  cited : t.filterMap Exchange.cited?
    = if v.eligible = true ∧ m.hasPassed q.id = false then (m.applicant q.id).citations else []
  stored : t.filterMap Exchange.stored? = [.ofVerdict q.id v q.now]
  evaluated : ∃ asked, (evaluateApplicant r (m.applicant q.id)).Yields asked (.ok v) ∧
    (∀ e ∈ asked, e.answer = m.answers e.call) ∧ vouching? t = vouching? asked

/-- **Without failures the processing comes to a verdict**, which says what is counted and stored. -/
theorem Course.undisturbed {r : Rules} {m : Memory} {q : Request} {t : List Exchange}
    {x : Except ServiceFailure Outcome} (h : Course r q t x) (hm : m.outages = [])
    (ht : m.Truthful t) (hfail : ∀ e ∈ t, e.isFailure = false) :
    ∃ v, Undisturbed r m q v t x := by
  cases h with
  | @failed asked u e x hassess hconclude =>
    obtain ⟨v, _, hv, -⟩ := assess_undisturbed hm hassess (Memory.truthful_append.mp ht).1
      fun e he => hfail e (List.mem_append_left _ he)
    cases hv
  | @rejected asked u a v x hassess hno hconclude =>
    obtain ⟨v', asked', hv, hevaluate, htrue, hvouching⟩ := assess_undisturbed hm hassess
      (Memory.truthful_append.mp ht).1 fun e he => hfail e (List.mem_append_left _ he)
    cases hv
    obtain ⟨rfl, rfl⟩ := hconclude.undisturbed fun e he => hfail e (List.mem_append_right _ he)
    refine ⟨v, rfl, ?_, ?_, asked', hevaluate, htrue, ?_⟩
    · rw [cited_assess_append hassess, cited_concluding, hno]
      rfl
    · rw [stored_assess_append hassess, stored_concluding]
    · rw [vouching?_append_of_not_checks rfl, hvouching]
  | @stopped asked u a v e hassess hyes hcharge =>
    have hok := (hcharge.undisturbed fun e he => hfail e (List.mem_append_right _ he)).1
    cases hok
  | @accepted asked u w a v x hassess hyes hcharge hconclude =>
    obtain ⟨v', asked', hv, hevaluate, htrue, hvouching⟩ := assess_undisturbed hm hassess
      (Memory.truthful_append.mp ht).1 fun e he => hfail e (List.mem_append_left _ he)
    cases hv
    have hchecks := (hcharge.undisturbed fun e he =>
      hfail e (List.mem_append_right _ (List.mem_append_left _ he))).2
    obtain ⟨rfl, rfl⟩ := hconclude.undisturbed fun e he =>
      hfail e (List.mem_append_right _ (List.mem_append_right _ he))
    refine ⟨v, rfl, ?_, ?_, asked', hevaluate, htrue, ?_⟩
    · rw [cited_of_accepted hassess hcharge hconclude ht, hyes]
      cases m.hasPassed q.id <;> rfl
    · rw [stored_assess_append hassess, List.filterMap_append, hcharge.stored, stored_concluding,
        List.nil_append]
    · rw [vouching?_append_of_not_checks, hvouching]
      rw [List.filterMap_append, hchecks]
      rfl

namespace Undisturbed

variable {r : Rules} {m : Memory} {q : Request} {v : Verdict} {t : List Exchange}
  {x : Except ServiceFailure Outcome}

/-- The verdict is what the answers of the memory come to. -/
theorem verdict_eq (h : Undisturbed r m q v t x) :
    (evaluateApplicant r (m.applicant q.id)).resultWith m.answers = .ok v := by
  obtain ⟨asked, hevaluate, htrue, -⟩ := h.evaluated
  exact Inquiry.resultWith_of_yields hevaluate htrue

theorem get?_outcomes (h : Undisturbed r m q v t x) (id : RegistrationId) :
    Table.get? (t.foldl Memory.after m).outcomes id
      = if q.id = id then some (.ofVerdict q.id v q.now) else Table.get? m.outcomes id := by
  rw [m.get?_outcomes_foldl_after, h.stored]
  rfl

theorem hasPassed (h : Undisturbed r m q v t x) (id : RegistrationId) :
    (t.foldl Memory.after m).hasPassed id = if q.id = id then v.eligible else m.hasPassed id := by
  unfold Memory.hasPassed
  rw [h.get?_outcomes]
  split
  · rw [Option.any_some, isValid_ofVerdict]
  · rfl

theorem passes (h : Undisturbed r m q v t x) : Birthright.passes t = [v.eligible] := by
  rw [Birthright.passes, h.stored, List.map_singleton, isValid_ofVerdict]

end Undisturbed

/-! ## One registration after the other -/

namespace Memory

/-- The memory after a registration was processed. -/
def processed (m : Memory) (r : Rules) (q : Request) : Memory :=
  ((process r q.now q.id).runIn m).state

/-- The memory after registrations were processed one after the other. -/
def served (m : Memory) (r : Rules) (requests : List Request) : Memory :=
  requests.foldl (fun m q => m.processed r q) m

variable {m : Memory} {l : Ledger}

theorem processed_eq (m : Memory) (r : Rules) (q : Request) :
    m.processed r q = ((process r q.now q.id).exchanges collaborators m).foldl after m :=
  (collaborators_faithful.truthful (process r q.now q.id) m).2

/-- **What the processing of a registration does** in memory without outages. -/
theorem process_undisturbed (hm : m.outages = []) (r : Rules) (q : Request) :
    ∃ v, Undisturbed r m q v ((process r q.now q.id).exchanges collaborators m)
      ((process r q.now q.id).runIn m).result :=
  (course_of_run collaborators r q m).undisturbed hm
    (collaborators_faithful.truthful (process r q.now q.id) m).1
    fun _ he => not_isFailure_of_mem hm (process r q.now q.id) he

theorem usage_processed (hl : m.usage = .ledger l) (r : Rules) (q : Request) :
    (m.processed r q).usage = .ledger (l.charge
      (((process r q.now q.id).exchanges collaborators m).filterMap Exchange.cited?)) := by
  rw [processed_eq, usage_foldl_after hl]

theorem later_processed (hl : m.usage = .ledger l) (r : Rules) (q : Request) :
    m.Later (m.processed r q) := by
  rw [processed_eq]
  exact later_foldl_after hl _

/-- **After any registrations** the citations are still counted in a ledger, and the memory is a
later one. -/
theorem later_served (hl : m.usage = .ledger l) (r : Rules) (requests : List Request) :
    m.Later (m.served r requests) ∧ ∃ l', (m.served r requests).usage = .ledger l' := by
  induction requests generalizing m l with
  | nil => exact ⟨.refl m, l, hl⟩
  | cons q rest ih =>
    obtain ⟨hlater, hledger⟩ := ih (usage_processed hl r q)
    exact ⟨(later_processed hl r q).trans hlater, hledger⟩

theorem served_append (m : Memory) (r : Rules) (requests : List Request) (q : Request) :
    m.served r (requests ++ [q]) = (m.served r requests).processed r q := by
  rw [served, List.foldl_append]
  rfl

end Memory

theorem serve_append (r : Rules) (requests : List Request) (q : Request) (m : Memory) :
    serve Memory.collaborators r (requests ++ [q]) m
      = serve Memory.collaborators r requests m ++
        [⟨q.id, (process r q.now q.id).exchanges Memory.collaborators (m.served r requests)⟩] := by
  induction requests generalizing m with
  | nil => rfl
  | cons q' rest ih =>
    rw [List.cons_append, serve, serve, ih]
    rfl

end Birthright
