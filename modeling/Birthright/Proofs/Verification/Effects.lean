import Birthright.Proofs.Verification.Consistency

/-!
# What one processing leaves behind

The processing of a registration ends in one of three ways. A call without which nothing is stored
fails; or the outcome is stored, but cannot be made known; or both is done. What the repository and
the audit log hold afterwards, and what is given back, follows from the way in which it ended.

* `Course.ended` — how the processing ends
* `Collaborators.Records` — a repository and an audit log that keep exactly what they take
* `process_effects` — what is stored, made known and given back, whatever fails
-/

namespace Birthright

/-! ## Effects -/

/-- What an exchange means for the repository and the audit log. -/
inductive Effect where
  /-- A call failed without which nothing is stored. -/
  | hindered (failure : ServiceFailure)
  | stored (outcome : Outcome)
  | unheard (failure : AuditFailure)
  | announced (event : AuditEvent)
  deriving DecidableEq

/-- The effect of an exchange. To fetch, to cite and to store are the calls that must not fail. -/
def Exchange.effect? : Exchange → Option Effect
  | ⟨.fetch .., .error e⟩ => some (.hindered (.record e))
  | ⟨.cite .., .error e⟩ => some (.hindered (.usage e))
  | ⟨.store .., .error e⟩ => some (.hindered (.record e))
  | ⟨.store o, .ok ()⟩ => some (.stored o)
  | ⟨.publish .., .error e⟩ => some (.unheard e)
  | ⟨.publish e, .ok ()⟩ => some (.announced e)
  | _ => none

/-- The effects of exchanges in their order. -/
def effects (t : List Exchange) : List Effect := t.filterMap Exchange.effect?

/-- A call that serves to count citations. -/
def Call.isCharge : Call → Bool
  | .fetch .. | .cite .. => true
  | .fields .. | .document .. | .isOverused .. | .store .. | .publish .. => false

/-- The ways in which it ends to store an outcome, to make it known, and then to report something. -/
inductive Ended (o : Outcome) (report : Except ServiceFailure Outcome) :
    List Effect → Except ServiceFailure Outcome → Prop where
  | hindered (f : ServiceFailure) : Ended o report [.hindered f] (.error f)
  | unheard (e : AuditFailure) : Ended o report [.stored o, .unheard e] (.error (.audit e))
  | concluded : Ended o report [.stored o, .announced (.ofOutcome o)] report

namespace Finding

/-- The outcome of a registration that was evaluated. -/
def outcome (q : Request) : Finding → Outcome
  | .ok v => .ofVerdict q.id v q.now
  | .error e => .ofFailure q.id e.message q.now

/-- What is reported of it once the outcome is stored and made known. -/
def report (q : Request) : Finding → Except ServiceFailure Outcome
  | .ok v => .ok (.ofVerdict q.id v q.now)
  | .error e => .error (.evaluation e)

/-- What is reported well is the outcome. -/
theorem outcome_of_report {q : Request} {f : Finding} {o : Outcome}
    (h : Finding.report q f = .ok o) : Finding.outcome q f = o := by
  cases f with
  | error e => cases h
  | ok v =>
    cases h
    rfl

end Finding

variable {r : Rules} {q : Request} {a : Applicant} {t u : List Exchange} {o : Outcome}
  {report x : Except ServiceFailure Outcome} {y : Except ServiceFailure Unit}

@[simp] theorem effects_append (t u : List Exchange) : effects (t ++ u) = effects t ++ effects u :=
  List.filterMap_append

theorem OnlyAsked.effects_eq_nil (h : OnlyAsked t) : effects t = [] := by
  refine h.filterMap_eq_nil fun e he => ?_
  unfold Exchange.effect?
  split <;> first | rfl | cases he

theorem OnlyAsked.not_isCharge (h : OnlyAsked t) : ∀ z ∈ t, z.call.isCharge = false := by
  intro z hz
  have hquestion := h z hz
  cases hcall : z.call <;> rw [hcall] at hquestion <;> first | rfl | cases hquestion

@[simp] theorem effects_citing (cs : List (Nin × String)) : effects (citing cs) = [] := by
  rw [effects, citing, List.filterMap_map]
  exact List.filterMap_eq_nil_iff.mpr fun _ _ => rfl

/-! ## How the processing ends -/

theorem Charging.effects_of_ok (h : Charging a t (.ok ())) : effects t = [] := by
  cases h with
  | passedBefore ho => rfl
  | charged hnew => exact effects_citing a.citations

/-- If the citations cannot be counted, this is the only effect. -/
theorem Charging.effects_of_error {f : ServiceFailure} (h : Charging a t (.error f)) :
    effects t = [.hindered f] := by
  cases h with
  | notFetched e => rfl
  | @interrupted earlier cs rest c e hnew hcs =>
    show effects (citing cs ++ [⟨.cite c.1 c.2, .error e⟩]) = _
    rw [effects_append, effects_citing]
    rfl

theorem Concluding.ended (h : Concluding o t y) :
    Ended o report (effects t) (y.bind fun _ => report) := by
  cases h with
  | notStored e => exact .hindered (.record e)
  | notPublished e => exact .unheard e
  | concluded => exact .concluded

theorem Concluding.not_isCharge (h : Concluding o t y) : ∀ z ∈ t, z.call.isCharge = false := by
  rcases h.exchanges with ⟨e, rfl⟩ | ⟨answer, rfl⟩ <;> simp [Call.isCharge]

/--
**How the processing ends**: what the evaluation came to is stored and made known, unless a call
fails; and only if the applicant is eligible, its citations are looked at.
-/
theorem Course.ended (h : Course r q t x) :
    ∃ asked rest y, t = asked ++ rest ∧ (assess r q.id).Yields asked y ∧
      Ended (Finding.outcome q (y.map (·.2))) (Finding.report q (y.map (·.2))) (effects t) x ∧
      (Finding.Eligible (y.map (·.2)) ∨ ∀ z ∈ t, z.call.isCharge = false) := by
  cases h with
  | @failed asked t e y hassess hconclude =>
    have hasked := onlyAsked_of_assess hassess
    refine ⟨asked, t, .error e, rfl, hassess, ?_, .inr ?_⟩
    · rw [effects_append, hasked.effects_eq_nil]
      exact hconclude.ended
    · exact List.forall_mem_append.mpr ⟨hasked.not_isCharge, hconclude.not_isCharge⟩
  | @rejected asked t a v y hassess hno hconclude =>
    have hasked := onlyAsked_of_assess hassess
    refine ⟨asked, t, .ok (a, v), rfl, hassess, ?_, .inr ?_⟩
    · rw [effects_append, hasked.effects_eq_nil]
      exact hconclude.ended
    · exact List.forall_mem_append.mpr ⟨hasked.not_isCharge, hconclude.not_isCharge⟩
  | @stopped asked t a v f hassess hyes hcharge =>
    refine ⟨asked, t, .ok (a, v), rfl, hassess, ?_, .inl ⟨v, rfl, hyes⟩⟩
    rw [effects_append, (onlyAsked_of_assess hassess).effects_eq_nil, hcharge.effects_of_error]
    exact .hindered f
  | @accepted asked t u a v y hassess hyes hcharge hconclude =>
    refine ⟨asked, t ++ u, .ok (a, v), rfl, hassess, ?_, .inl ⟨v, rfl, hyes⟩⟩
    rw [effects_append, effects_append, (onlyAsked_of_assess hassess).effects_eq_nil,
      hcharge.effects_of_ok]
    exact hconclude.ended

/-! ## Repositories and audit logs -/

/-- The outcomes in the repository after an effect. -/
def Effect.keep (kept : Table RegistrationId Outcome) : Effect → Table RegistrationId Outcome
  | .stored o => Table.insert kept o.registrationId o
  | .hindered _ | .unheard _ | .announced _ => kept

/-- The events in the audit log after an effect. -/
def Effect.log (logged : List AuditEvent) : Effect → List AuditEvent
  | .announced e => logged ++ [e]
  | .hindered _ | .stored _ | .unheard _ => logged

/-- The collaborators keep what they take, and a call that fails leaves everything as it was. -/
structure Collaborators.Records {σ : Type} (w : Collaborators σ)
    (outcomes : σ → Table RegistrationId Outcome) (published : σ → List AuditEvent) : Prop where
  stored : ∀ c s, outcomes (w.answer c s).2.2
    = (effects [⟨c, (w.answer c s).1⟩]).foldl Effect.keep (outcomes s)
  announced : ∀ c s, published (w.answer c s).2.2
    = (effects [⟨c, (w.answer c s).1⟩]).foldl Effect.log (published s)

namespace Memory

theorem published_cite (m : Memory) (nin : Nin) (role : String) :
    (m.cite nin role).2.published = m.published := by
  unfold Memory.cite
  split <;> rfl

theorem outcomes_after_eq (m : Memory) (z : Exchange) :
    (m.after z).outcomes = (effects [z]).foldl Effect.keep m.outcomes := by
  obtain ⟨c, answer⟩ := z
  cases c with
  | cite nin role => cases answer <;> first | rfl | exact m.outcomes_cite nin role
  | _ => cases answer <;> rfl

theorem published_after_eq (m : Memory) (z : Exchange) :
    (m.after z).published = (effects [z]).foldl Effect.log m.published := by
  obtain ⟨c, answer⟩ := z
  cases c with
  | cite nin role => cases answer <;> first | rfl | exact m.published_cite nin role
  | _ => cases answer <;> rfl

/-- So do the collaborators in memory, whatever calls fail. -/
theorem failing_records (plan : Nat → Call → Option Fault) :
    (failing plan).Records (·.1.outcomes) (·.1.published) where
  stored c s := by
    rw [(failing_answer plan c s.1 s.2).2]
    exact s.1.outcomes_after_eq _
  announced c s := by
    rw [(failing_answer plan c s.1 s.2).2]
    exact s.1.published_after_eq _

end Memory

section Records

variable {σ α : Type} {w : Collaborators σ} {outcomes : σ → Table RegistrationId Outcome}
  {published : σ → List AuditEvent}

/-- **What is kept after a run** follows from its effects. -/
theorem Collaborators.Records.run (h : w.Records outcomes published) (x : Inquiry α) (s : σ) :
    outcomes (x.run w s).state = (effects (x.exchanges w s)).foldl Effect.keep (outcomes s) ∧
      published (x.run w s).state = (effects (x.exchanges w s)).foldl Effect.log (published s) := by
  induction x generalizing s with
  | done a => exact ⟨rfl, rfl⟩
  | note e next ih => exact ih s
  | ask c next ih =>
    obtain ⟨houtcomes, hpublished⟩ := ih (w.answer c s).1 (w.answer c s).2.2
    rw [Inquiry.exchanges, ← List.singleton_append, effects_append, List.foldl_append,
      List.foldl_append, ← h.stored, ← h.announced]
    exact ⟨houtcomes, hpublished⟩

end Records

/-! ## What is left behind -/

/--
What the processing of a registration leaves behind: its exchanges, what it gives back, and the
outcomes and events before and after, if the evaluation came to this finding.
-/
structure Aftermath (q : Request) (evaluated : Finding) (t : List Exchange)
    (x : Except ServiceFailure Outcome) (kept kept' : Table RegistrationId Outcome)
    (logged logged' : List AuditEvent) : Prop where
  /-- An outcome that is given back is the one that is stored and made known. -/
  returned : ∀ o, x = .ok o →
    Table.get? kept' q.id = some o ∧ logged' = logged ++ [.ofOutcome o]
  /-- A verdict is given back if no call fails by which it is stored and made known. -/
  accepted : ∀ v, evaluated = .ok v → (∀ f, .hindered f ∉ effects t) →
    (∀ f, .unheard f ∉ effects t) → x = .ok (.ofVerdict q.id v q.now)
  /-- An outage of the evaluation is stored, made known, and given back. -/
  outage : ∀ e, evaluated = .error e → (∀ f, .hindered f ∉ effects t) →
    (∀ f, .unheard f ∉ effects t) →
    Table.get? kept' q.id = some (.ofFailure q.id e.message q.now) ∧
      logged' = logged ++ [.ofOutcome (.ofFailure q.id e.message q.now)] ∧
      x = .error (.evaluation e)
  /-- A call that fails before anything is stored leaves all as it was. -/
  unstored : ∀ f, .hindered f ∈ effects t →
    Table.get? kept' q.id = Table.get? kept q.id ∧ logged' = logged ∧ x = .error f
  /-- What cannot be made known is stored all the same. -/
  unannounced : ∀ e, .unheard e ∈ effects t →
    Table.get? kept' q.id = some (Finding.outcome q evaluated) ∧ logged' = logged ∧
      x = .error (.audit e)
  others : ∀ id, id ≠ q.id → Table.get? kept' id = Table.get? kept id
  ordered : ∀ u v e answer, t = u ++ ⟨.publish e, answer⟩ :: v →
    ∃ before o, u = before ++ [⟨.store o, .ok ()⟩] ∧ e = .ofOutcome o
  uncharged : ¬Finding.Eligible evaluated → ∀ z ∈ t, z.call.isCharge = false

theorem Finding.registrationId_outcome (q : Request) (f : Finding) :
    (Finding.outcome q f).registrationId = q.id := by
  cases f <;> rfl

/-- **What is left behind** follows from the way in which the processing ended. -/
theorem Ended.aftermath {f : Finding} {kept : Table RegistrationId Outcome}
    {logged : List AuditEvent}
    (h : Ended (Finding.outcome q f) (Finding.report q f) (effects t) x)
    (hordered : ∀ u v e answer, t = u ++ ⟨.publish e, answer⟩ :: v →
      ∃ before o, u = before ++ [⟨.store o, .ok ()⟩] ∧ e = .ofOutcome o)
    (huncharged : Finding.Eligible f ∨ ∀ z ∈ t, z.call.isCharge = false) :
    Aftermath q f t x kept ((effects t).foldl Effect.keep kept) logged
      ((effects t).foldl Effect.log logged) := by
  have hid := Finding.registrationId_outcome q f
  -- The outcome is stored under the id of the registration, in place of the one before.
  have hinsert (id : RegistrationId) :
      Table.get? (Table.insert kept (Finding.outcome q f).registrationId (Finding.outcome q f)) id
        = if q.id = id then some (Finding.outcome q f) else Table.get? kept id := by
    rw [Table.get?_insert, hid]
  have hcharged : ¬Finding.Eligible f → ∀ z ∈ t, z.call.isCharge = false :=
    fun hno => huncharged.resolve_left hno
  generalize ht : effects t = es at h
  cases h with
  | hindered g =>
    have hnot : ¬∀ f, .hindered f ∉ effects t := fun hno => hno g (by simp [ht])
    constructor
    case returned => rintro o ⟨⟩
    case accepted => exact fun v _ hno => absurd hno hnot
    case outage => exact fun e _ hno => absurd hno hnot
    case unstored =>
      intro g' hg
      obtain rfl : g' = g := by simpa [ht] using hg
      exact ⟨rfl, rfl, rfl⟩
    case unannounced =>
      intro e he
      simp [ht] at he
    case others => exact fun id _ => rfl
    case ordered => exact hordered
    case uncharged => exact hcharged
  | unheard e =>
    have hnot : ¬∀ f, .unheard f ∉ effects t := fun hno => hno e (by simp [ht])
    constructor
    case returned => rintro o ⟨⟩
    case accepted => exact fun v _ _ hno => absurd hno hnot
    case outage => exact fun e' _ _ hno => absurd hno hnot
    case unstored =>
      intro g hg
      simp [ht] at hg
    case unannounced =>
      intro e' he
      obtain rfl : e' = e := by simpa [ht] using he
      exact ⟨(hinsert q.id).trans (if_pos rfl), rfl, rfl⟩
    case others => exact fun id hne => (hinsert id).trans (if_neg (Ne.symm hne))
    case ordered => exact hordered
    case uncharged => exact hcharged
  | concluded =>
    constructor
    case returned =>
      intro o ho
      rw [← Finding.outcome_of_report ho]
      exact ⟨(hinsert q.id).trans (if_pos rfl), rfl⟩
    case accepted =>
      rintro v rfl _ _
      rfl
    case outage =>
      rintro e rfl _ _
      exact ⟨(hinsert q.id).trans (if_pos rfl), rfl, rfl⟩
    case unstored =>
      intro g hg
      simp [ht] at hg
    case unannounced =>
      intro e he
      simp [ht] at he
    case others => exact fun id hne => (hinsert id).trans (if_neg (Ne.symm hne))
    case ordered => exact hordered
    case uncharged => exact hcharged

section Process

variable {σ : Type} (w : Collaborators σ) (r : Rules) (q : Request) (s : σ)

/-- The processing begins with the evaluation, so that both come to the same finding. -/
theorem result_evaluate_eq_of_exchanges {asked rest : List Exchange}
    {y : Except EvaluationFailure (Applicant × Verdict)} (hassess : (assess r q.id).Yields asked y)
    (ht : (process r q.now q.id).exchanges w s = asked ++ rest) :
    ((evaluate r q.id).run w s).result = y.map (·.2) := by
  unfold process at ht
  rw [Inquiry.exchanges_bind] at ht
  obtain ⟨-, rfl⟩ := (Inquiry.yields_run w (assess r q.id) s).determined hassess ht
  unfold evaluate
  rw [Inquiry.run_bind]
  rfl

/--
**What the processing of a registration leaves behind**, whatever the collaborators knew before and
whichever of their calls fail.
-/
theorem process_effects (outcomes : σ → Table RegistrationId Outcome)
    (published : σ → List AuditEvent) (hrecords : w.Records outcomes published) :
    Aftermath q ((evaluate r q.id).run w s).result ((process r q.now q.id).exchanges w s)
      ((process r q.now q.id).run w s).result
      (outcomes s) (outcomes ((process r q.now q.id).run w s).state)
      (published s) (published ((process r q.now q.id).run w s).state) := by
  have hcourse := course_of_run w r q s
  obtain ⟨asked, rest, y, ht, hassess, hended, huncharged⟩ := hcourse.ended
  obtain ⟨houtcomes, hpublished⟩ := hrecords.run (process r q.now q.id) s
  rw [result_evaluate_eq_of_exchanges w r q s hassess ht, houtcomes, hpublished]
  refine hended.aftermath (fun u v e answer hsplit => ?_) huncharged
  rw [hsplit] at hcourse
  obtain ⟨before, o, hu, he, -, -⟩ := hcourse.of_publish
  exact ⟨before, o, hu, he⟩

end Process

/-- No event can be made known. -/
def publishFails (_ : Nat) : Call → Option Fault
  | .publish _ => some .timedOut
  | _ => none

/-- The processing of a registration that passes, which cannot be made known. -/
def unannouncedRun : Run (Memory × Nat) (Except ServiceFailure Outcome) :=
  (process .standard (requestFor "A").now ⟨"A"⟩).run (Memory.failing publishFails)
    (cousins ["A"] 5, 0)

theorem process_effects_unannounced :
    (∃ o, Table.get? unannouncedRun.state.1.outcomes ⟨"A"⟩ = some o ∧ o.status = .passed) ∧
      unannouncedRun.state.1.published = [] ∧
      unannouncedRun.result = .error (.audit (.transport "")) := by
  have hafter := process_effects (Memory.failing publishFails) .standard (requestFor "A")
    (cousins ["A"] 5, 0) (·.1.outcomes) (·.1.published) (Memory.failing_records publishFails)
  have hunheard : .unheard (.transport "")
      ∈ effects ((process .standard (requestFor "A").now ⟨"A"⟩).exchanges
        (Memory.failing publishFails) (cousins ["A"] 5, 0)) := by decide +kernel
  obtain ⟨hstored, hpublished, hresult⟩ := hafter.unannounced _ hunheard
  have hpassed : (Table.get? unannouncedRun.state.1.outcomes ⟨"A"⟩).map Outcome.status
      = some .passed := by decide +kernel
  obtain ⟨o, ho, hstatus⟩ := Option.map_eq_some_iff.mp hpassed
  exact ⟨⟨o, ho, hstatus⟩, hpublished, hresult⟩

end Birthright
