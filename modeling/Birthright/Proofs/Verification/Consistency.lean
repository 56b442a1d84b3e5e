import Birthright.Proofs.Eligibility.Reasons
import Birthright.Proofs.Verification.Course
import Birthright.Proofs.Verification.Recount

/-!
# Outcomes and events that fit together

An outcome says several times what became of a registration: by its status, by its verdict, and by
an error. The view of it and the event about it say so again. All of them agree in every state that
is reached by processing registrations, whatever fails on the way.

* `Outcome.Consistent` — the three forms of an outcome
* `Consistent.fits_view`, `Consistent.fits_event` — its view and its event
* `Course.of_store`, `Course.of_publish` — what is stored and made known is consistent
* `outcomes_consistent` — hence all that is kept after any number of registrations
-/

namespace Birthright

/-! ## Outcomes -/

/-- An outcome has one of three forms, each with its status. -/
inductive Outcome.Consistent (o : Outcome) : Prop where
  | passed {v : Verdict} (hstatus : o.status = .passed) (hverdict : o.verdict = some v)
      (hyes : v.eligible = true) (hreason : v.reason = .success) (hinternal : o.internalError = false)
      (herror : o.error = none)
  | manualReview {v : Verdict} (hstatus : o.status = .manualReview) (hverdict : o.verdict = some v)
      (hno : v.eligible = false) (hreason : v.reason ≠ .success)
      (hinternal : o.internalError = false) (herror : o.error = none)
  | failed {message : String} (hstatus : o.status = .failed) (hverdict : o.verdict = none)
      (hinternal : o.internalError = true) (herror : o.error = some message)

/-- What is shown of an outcome is what the outcome says, and it fits together. -/
structure StatusView.Fits (v : StatusView) (o : Outcome) : Prop where
  registrationId_eq : v.registrationId = o.registrationId
  status_eq : v.status = o.status
  isValid_iff_passed : v.isValid = true ↔ o.status = .passed
  reason_eq : v.reason = o.verdict.map Verdict.reason
  processedAt_eq : v.processedAt = o.processedAt
  isValid_iff : v.isValid = true ↔ v.reason = some .success
  reason_eq_none_iff : v.reason = none ↔ v.status = .failed
  rationale_ne : v.rationale ≠ "pending evaluation"

/-- The event of a registration that passed. -/
def AuditEvent.IsUpdate (e : AuditEvent) : Prop :=
  e.eventId = "RPR_402" ∧ e.eventName = "UPDATE" ∧ e.eventType = "BUSINESS" ∧ e.moduleId = "SUCCESS"

/-- The event of any other registration. -/
def AuditEvent.IsException (e : AuditEvent) : Prop :=
  e.eventId = "RPR_405" ∧ e.eventName = "EXCEPTION" ∧ e.eventType = "SYSTEM" ∧
    e.moduleId ≠ "SUCCESS"

/-- The event about an outcome says whether it passed. -/
def AuditEvent.Fits (e : AuditEvent) (o : Outcome) : Prop :=
  if o.status = .passed then e.IsUpdate else e.IsException

namespace Outcome

variable {id : RegistrationId} {v : Verdict} {now : Calendar.Instant} {o : Outcome}

theorem consistent_ofVerdict (h : v.Sound) : (ofVerdict id v now).Consistent := by
  cases hv : v.eligible with
  | true => exact .passed (by simp [ofVerdict, hv]) rfl hv (h.mp hv) rfl rfl
  | false =>
    refine .manualReview (by simp [ofVerdict, hv]) rfl hv (fun hreason => ?_) rfl rfl
    rw [h.mpr hreason] at hv
    cases hv

theorem consistent_ofFailure {message : String} : (ofFailure id message now).Consistent :=
  .failed rfl rfl rfl rfl

/-- No reason has the code of success but success itself. -/
theorem code_eq_success_iff {reason : Reason} : reason.code = "SUCCESS" ↔ reason = .success := by
  cases reason <;> decide

/-- What begins with another letter is not the text for an outcome without verdict and error. -/
theorem append_ne_pending {s : String} (h : s.toList.head?.any (· ≠ 'p') = true) (rest : String) :
    s ++ rest ≠ "pending evaluation" := by
  intro heq
  have hpending : "pending evaluation".toList = 'p' :: "ending evaluation".toList := by decide +kernel
  have hlist := congrArg String.toList heq
  rw [String.toList_append, hpending] at hlist
  cases hs : s.toList with
  | nil => simp [hs] at h
  | cons c tail =>
    rw [hs, List.cons_append] at hlist
    obtain ⟨rfl, -⟩ := List.cons.inj hlist
    simp [hs] at h

theorem summary_ne_pending (v : Verdict) : v.summary ≠ "pending evaluation" := by
  have hreason : v.reason.summary.toList.head?.any (· ≠ 'p') = true := by
    cases v.reason <;> decide +kernel
  unfold Verdict.summary
  split
  · rw [← String.append_empty (s := v.reason.summary)]
    exact append_ne_pending hreason ""
  · rw [String.append_assoc]
    exact append_ne_pending hreason _

theorem isValid_iff_passed : o.isValid = true ↔ o.status = .passed := decide_eq_true_iff

theorem Consistent.isValid_iff (h : o.Consistent) :
    o.isValid = true ↔ o.verdict.map Verdict.reason = some .success := by
  rw [isValid_iff_passed]
  cases h with
  | passed hstatus hverdict hyes hreason => simp [hstatus, hverdict, hreason]
  | manualReview hstatus hverdict hno hreason => simp [hstatus, hverdict, hreason]
  | failed hstatus hverdict => simp [hstatus, hverdict]

theorem Consistent.reason_eq_none_iff (h : o.Consistent) :
    o.verdict.map Verdict.reason = none ↔ o.status = .failed := by
  cases h with
  | passed hstatus hverdict => simp [hstatus, hverdict]
  | manualReview hstatus hverdict => simp [hstatus, hverdict]
  | failed hstatus hverdict => simp [hstatus, hverdict]

theorem Consistent.rationale_ne_pending (h : o.Consistent) : o.rationale ≠ "pending evaluation" := by
  cases h with
  | @passed v hstatus hverdict => simpa [rationale, hverdict] using summary_ne_pending v
  | @manualReview v hstatus hverdict => simpa [rationale, hverdict] using summary_ne_pending v
  | @failed message hstatus hverdict hinternal herror =>
    simpa [rationale, hverdict, herror] using append_ne_pending (by decide +kernel) message

/-- **What is shown of a consistent outcome** is what it says, and it fits together. -/
theorem Consistent.fits_view (h : o.Consistent) : o.view.Fits o where
  registrationId_eq := rfl
  status_eq := rfl
  isValid_iff_passed := isValid_iff_passed
  reason_eq := rfl
  processedAt_eq := rfl
  isValid_iff := h.isValid_iff
  reason_eq_none_iff := h.reason_eq_none_iff
  rationale_ne := h.rationale_ne_pending

/-- **The event about a consistent outcome** says whether it passed. -/
theorem Consistent.fits_event (h : o.Consistent) : (AuditEvent.ofOutcome o).Fits o := by
  unfold AuditEvent.Fits
  cases h with
  | passed hstatus hverdict hyes hreason hinternal herror =>
    rw [if_pos hstatus]
    simp [AuditEvent.IsUpdate, AuditEvent.ofOutcome, isValid, hstatus, hverdict, hreason, Reason.code]
  | manualReview hstatus hverdict hno hreason hinternal herror =>
    rw [if_neg (by simp [hstatus])]
    simp [AuditEvent.IsException, AuditEvent.ofOutcome, isValid, hstatus, hverdict, hreason,
      code_eq_success_iff]
  | failed hstatus hverdict hinternal herror =>
    rw [if_neg (by simp [hstatus])]
    simp [AuditEvent.IsException, AuditEvent.ofOutcome, isValid, hstatus, hverdict,
      code_eq_success_iff]

end Outcome

/-! ## What the processing stores and makes known -/

/-- A call with which the processing of a registration concludes. -/
def Call.isConclusion : Call → Bool
  | .store .. | .publish .. => true
  | .fields .. | .document .. | .isOverused .. | .cite .. | .fetch .. => false

/-- Nothing is stored and nothing is made known. -/
def Quiet (t : List Exchange) : Prop := ∀ x ∈ t, x.call.isConclusion = false

variable {r : Rules} {q : Request} {t u v : List Exchange}

theorem Quiet.append (ht : Quiet t) (hu : Quiet u) : Quiet (t ++ u) := by
  intro x hx
  rcases List.mem_append.mp hx with hx | hx
  · exact ht x hx
  · exact hu x hx

theorem OnlyAsked.quiet (h : OnlyAsked t) : Quiet t := by
  intro x hx
  have hquestion := h x hx
  cases hcall : x.call <;> rw [hcall] at hquestion <;> first | rfl | cases hquestion

theorem quiet_citing (cs : List (Nin × String)) : Quiet (citing cs) := by
  intro x hx
  obtain ⟨c, -, rfl⟩ := List.mem_map.mp hx
  rfl

theorem Charging.quiet {a : Applicant} {x : Except ServiceFailure Unit} (h : Charging a t x) :
    Quiet t := by
  cases h with
  | notFetched e => simp [Quiet, Call.isConclusion]
  | passedBefore ho => simp [Quiet, Call.isConclusion]
  | @interrupted earlier cs rest c e hnew hcs =>
    have hrest : Quiet (citing cs ++ [⟨.cite c.1 c.2, .error e⟩]) :=
      (quiet_citing cs).append (by simp [Quiet, Call.isConclusion])
    exact List.forall_mem_cons.mpr ⟨rfl, hrest⟩
  | charged hnew => exact List.forall_mem_cons.mpr ⟨rfl, quiet_citing _⟩

/-- An outcome is stored, and its event is made known if this was done. -/
theorem Concluding.exchanges {o : Outcome} {x : Except ServiceFailure Unit} (h : Concluding o t x) :
    (∃ e, t = [⟨.store o, .error e⟩]) ∨
      ∃ answer, t = [⟨.store o, .ok ()⟩, ⟨.publish (.ofOutcome o), answer⟩] := by
  cases h with
  | notStored e => exact .inl ⟨e, rfl⟩
  | notPublished e => exact .inr ⟨.error e, rfl⟩
  | concluded => exact .inr ⟨.ok (), rfl⟩

/-- **At the end of the processing** one consistent outcome is stored and made known, if any. -/
theorem Course.conclusion {x : Except ServiceFailure Outcome} (h : Course r q t x) :
    ∃ u v, t = u ++ v ∧ Quiet u ∧ (v = [] ∨ ∃ o y, Concluding o v y ∧
      o.registrationId = q.id ∧ o.Consistent) := by
  cases h with
  | failed hassess hconclude =>
    exact ⟨_, _, rfl, (onlyAsked_of_assess hassess).quiet,
      .inr ⟨_, _, hconclude, rfl, Outcome.consistent_ofFailure⟩⟩
  | rejected hassess hno hconclude =>
    exact ⟨_, _, rfl, (onlyAsked_of_assess hassess).quiet,
      .inr ⟨_, _, hconclude, rfl, Outcome.consistent_ofVerdict (sound_of_assess hassess)⟩⟩
  | stopped hassess hyes hcharge =>
    exact ⟨_, [], by rw [List.append_nil], (onlyAsked_of_assess hassess).quiet.append hcharge.quiet,
      .inl rfl⟩
  | accepted hassess hyes hcharge hconclude =>
    exact ⟨_, _, (List.append_assoc _ _ _).symm,
      (onlyAsked_of_assess hassess).quiet.append hcharge.quiet,
      .inr ⟨_, _, hconclude, rfl, Outcome.consistent_ofVerdict (sound_of_assess hassess)⟩⟩

/-- **What is stored** is a consistent outcome of the registration that is processed. -/
theorem Course.of_store {x : Except ServiceFailure Outcome} (h : Course r q t x) {y : Exchange}
    (hy : y ∈ t) {o : Outcome} (ho : y.call = .store o) : o.registrationId = q.id ∧ o.Consistent := by
  obtain ⟨u, v, rfl, hquiet, hend⟩ := h.conclusion
  rcases List.mem_append.mp hy with hu | hv
  · have hno := hquiet y hu
    rw [ho] at hno
    cases hno
  · rcases hend with rfl | ⟨o', z, hconclude, hfits⟩
    · cases hv
    · rcases hconclude.exchanges with ⟨e, rfl⟩ | ⟨answer, rfl⟩
      · obtain rfl := List.mem_singleton.mp hv
        cases ho
        exact hfits
      · rcases List.mem_cons.mp hv with rfl | hpublish
        · cases ho
          exact hfits
        · obtain rfl := List.mem_singleton.mp hpublish
          cases ho

/-- **What is made known** is the event of the outcome that was stored directly before. -/
theorem Course.of_publish {x : Except ServiceFailure Outcome} {e : AuditEvent}
    {answer : Except AuditFailure Unit} (h : Course r q (u ++ ⟨.publish e, answer⟩ :: v) x) :
    ∃ before o, u = before ++ [⟨.store o, .ok ()⟩] ∧ e = .ofOutcome o ∧
      o.registrationId = q.id ∧ o.Consistent := by
  generalize ht : u ++ ⟨.publish e, answer⟩ :: v = t at h
  obtain ⟨t₁, t₂, rfl, hquiet, hend⟩ := h.conclusion
  -- The event is made known in the conclusion, since all before it is quiet.
  obtain ⟨c, rfl, hc⟩ : ∃ c, u = t₁ ++ c ∧ t₂ = c ++ ⟨.publish e, answer⟩ :: v := by
    rcases List.append_eq_append_iff.mp ht with ⟨c, rfl, hc⟩ | ⟨c, rfl, hc⟩
    · cases c with
      | nil => exact ⟨[], by simp, hc.symm⟩
      | cons y c =>
        obtain ⟨rfl, -⟩ := List.cons.inj hc
        have hno := hquiet ⟨.publish e, answer⟩ (by simp)
        cases hno
    · exact ⟨c, rfl, hc⟩
  subst hc
  rcases hend with hnil | ⟨o, z, hconclude, hfits⟩
  · simp at hnil
  · rcases hconclude.exchanges with ⟨e', he⟩ | ⟨answer', hpair⟩
    · cases c <;> simp at he
    · rcases c with _ | ⟨y, _ | ⟨y', c⟩⟩
      · simp at hpair
      · obtain ⟨rfl, hpublish⟩ := List.cons.inj hpair
        cases hpublish
        exact ⟨t₁, o, rfl, rfl, hfits⟩
      · simp at hpair

/-! ## What collaborators keep -/

/--
The collaborators keep outcomes and events: only a call to store changes the outcomes, only a call
to publish adds an event, and either may be without effect.
-/
structure Collaborators.Keeps {σ : Type} (w : Collaborators σ)
    (outcomes : σ → Table RegistrationId Outcome) (published : σ → List AuditEvent) : Prop where
  stored : ∀ c s, outcomes (w.answer c s).2.2 = outcomes s ∨ ∃ o, c = .store o ∧
    outcomes (w.answer c s).2.2 = Table.insert (outcomes s) o.registrationId o
  announced : ∀ c s, published (w.answer c s).2.2 = published s ∨ ∃ e, c = .publish e ∧
    published (w.answer c s).2.2 = published s ++ [e]

/-- The state in which the processing of registrations leaves the collaborators. -/
def stateAfter {σ : Type} (w : Collaborators σ) (r : Rules) (requests : List Request) (s : σ) : σ :=
  requests.foldl (fun s q => ((process r q.now q.id).run w s).state) s

namespace Memory

theorem outcomes_after_cases (m : Memory) (x : Exchange) : (m.after x).outcomes = m.outcomes ∨
    ∃ o, x.call = .store o ∧
      (m.after x).outcomes = Table.insert m.outcomes o.registrationId o := by
  unfold after
  split
  · next nin role => exact .inl (m.outcomes_cite nin role)
  · next o => exact .inr ⟨o, rfl, rfl⟩
  · exact .inl rfl
  · exact .inl rfl

theorem published_after_cases (m : Memory) (x : Exchange) : (m.after x).published = m.published ∨
    ∃ e, x.call = .publish e ∧ (m.after x).published = m.published ++ [e] := by
  unfold after
  split
  · next nin role =>
    left
    unfold Memory.cite
    split <;> rfl
  · exact .inl rfl
  · next e => exact .inr ⟨e, rfl, rfl⟩
  · exact .inl rfl

/-- The collaborators in memory keep outcomes and events, whatever calls fail. -/
theorem failing_keeps (plan : Nat → Call → Option Fault) :
    (failing plan).Keeps (·.1.outcomes) (·.1.published) where
  stored c s := by
    rw [(failing_answer plan c s.1 s.2).2]
    exact s.1.outcomes_after_cases _
  announced c s := by
    rw [(failing_answer plan c s.1 s.2).2]
    exact s.1.published_after_cases _

end Memory

namespace Collaborators.Keeps

variable {σ α : Type} {w : Collaborators σ} {outcomes : σ → Table RegistrationId Outcome}
  {published : σ → List AuditEvent}

/-- After a run there are only outcomes that were there before or were stored in it. -/
theorem outcomes_run (h : w.Keeps outcomes published) (x : Inquiry α) {s : σ} {id : RegistrationId}
    {o : Outcome} (ho : Table.get? (outcomes (x.run w s).state) id = some o) :
    Table.get? (outcomes s) id = some o ∨
      (o.registrationId = id ∧ ∃ y ∈ x.exchanges w s, y.call = .store o) := by
  induction x generalizing s with
  | done a => exact .inl ho
  | note e next ih => exact ih ho
  | ask c next ih =>
    rcases ih (w.answer c s).1 ho with hbefore | ⟨hid, y, hy, hcall⟩
    · rcases h.stored c s with hsame | ⟨o', rfl, hinsert⟩
      · exact .inl (hsame ▸ hbefore)
      · rw [hinsert, Table.get?_insert] at hbefore
        split at hbefore
        · next hid =>
          cases hbefore
          exact .inr ⟨hid, _, List.mem_cons_self, rfl⟩
        · exact .inl hbefore
    · exact .inr ⟨hid, y, List.mem_cons_of_mem _ hy, hcall⟩

/-- After a run there are only events that were there before or were made known in it. -/
theorem published_run (h : w.Keeps outcomes published) (x : Inquiry α) {s : σ} {e : AuditEvent}
    (he : e ∈ published (x.run w s).state) :
    e ∈ published s ∨ ∃ y ∈ x.exchanges w s, y.call = .publish e := by
  induction x generalizing s with
  | done a => exact .inl he
  | note e next ih => exact ih he
  | ask c next ih =>
    rcases ih (w.answer c s).1 he with hbefore | ⟨y, hy, hcall⟩
    · rcases h.announced c s with hsame | ⟨e', rfl, hadded⟩
      · exact .inl (hsame ▸ hbefore)
      · rw [hadded] at hbefore
        rcases List.mem_append.mp hbefore with hold | hnew
        · exact .inl hold
        · obtain rfl := List.mem_singleton.mp hnew
          exact .inr ⟨_, List.mem_cons_self, rfl⟩
    · exact .inr ⟨y, List.mem_cons_of_mem _ hy, hcall⟩

variable {r : Rules} {requests : List Request} {s : σ}

/-- **After any number of registrations** there are only outcomes that were stored for one. -/
theorem outcomes_stateAfter (h : w.Keeps outcomes published) {id : RegistrationId} {o : Outcome}
    (ho : Table.get? (outcomes (stateAfter w r requests s)) id = some o) :
    Table.get? (outcomes s) id = some o ∨
      (o.registrationId = id ∧ ∃ h ∈ serve w r requests s, ∃ y ∈ h.exchanges, y.call = .store o) := by
  induction requests generalizing s with
  | nil => exact .inl ho
  | cons q rest ih =>
    rcases ih ho with hbefore | ⟨hid, h', hmem, hstored⟩
    · rcases h.outcomes_run _ hbefore with hstart | ⟨hid, hstored⟩
      · exact .inl hstart
      · exact .inr ⟨hid, _, List.mem_cons_self, hstored⟩
    · exact .inr ⟨hid, h', List.mem_cons_of_mem _ hmem, hstored⟩

/-- **After any number of registrations** there are only events that were made known for one. -/
theorem published_stateAfter (h : w.Keeps outcomes published) {e : AuditEvent}
    (he : e ∈ published (stateAfter w r requests s)) :
    e ∈ published s ∨ ∃ h ∈ serve w r requests s, ∃ y ∈ h.exchanges, y.call = .publish e := by
  induction requests generalizing s with
  | nil => exact .inl he
  | cons q rest ih =>
    rcases ih he with hbefore | ⟨h', hmem, hpublished⟩
    · rcases h.published_run _ hbefore with hstart | hpublished
      · exact .inl hstart
      · exact .inr ⟨_, List.mem_cons_self, hpublished⟩
    · exact .inr ⟨h', List.mem_cons_of_mem _ hmem, hpublished⟩

end Collaborators.Keeps

/-- What is done for a registration is a course of its processing. -/
theorem course_of_mem_serve {σ : Type} {w : Collaborators σ} {requests : List Request} {s : σ}
    {h : Handling} (hmem : h ∈ serve w r requests s) :
    ∃ q x, h.id = q.id ∧ Course r q h.exchanges x := by
  induction requests generalizing s with
  | nil => cases hmem
  | cons q rest ih =>
    rcases List.mem_cons.mp hmem with rfl | hrest
    · exact ⟨q, _, rfl, course_of_run w r q s⟩
    · exact ih hrest

/--
**All outcomes and events fit together**, after any number of registrations that were processed with
collaborators that may fail at any moment, if there were none in the beginning.
-/
theorem outcomes_consistent {σ : Type} (w : Collaborators σ)
    (outcomes : σ → Table RegistrationId Outcome) (published : σ → List AuditEvent) (r : Rules)
    (requests : List Request) (s : σ) (hkeeps : w.Keeps outcomes published)
    (hnone : outcomes s = []) (hsilent : published s = []) :
    (∀ id o, Table.get? (outcomes (stateAfter w r requests s)) id = some o →
      o.registrationId = id ∧ o.Consistent ∧ o.view.Fits o) ∧
    ∀ e ∈ published (stateAfter w r requests s), ∃ h ∈ serve w r requests s, ∃ o u v answer,
      h.exchanges = u ++ ⟨.store o, .ok ()⟩ :: ⟨.publish e, answer⟩ :: v ∧ e = .ofOutcome o ∧
      o.registrationId = h.id ∧ o.Consistent ∧ e.Fits o := by
  constructor
  · intro id o ho
    rcases hkeeps.outcomes_stateAfter ho with hstart | ⟨hid, h, hmem, y, hy, hcall⟩
    · rw [hnone] at hstart
      cases hstart
    · obtain ⟨q, x, -, hcourse⟩ := course_of_mem_serve hmem
      have hconsistent := (hcourse.of_store hy hcall).2
      exact ⟨hid, hconsistent, hconsistent.fits_view⟩
  · intro e he
    rcases hkeeps.published_stateAfter he with hstart | ⟨h, hmem, ⟨c, answer⟩, hy, rfl⟩
    · rw [hsilent] at hstart
      cases hstart
    · obtain ⟨q, x, hq, hcourse⟩ := course_of_mem_serve hmem
      obtain ⟨u, v, hsplit⟩ := List.append_of_mem hy
      rw [hsplit] at hcourse
      obtain ⟨before, o, rfl, rfl, hid, hconsistent⟩ := hcourse.of_publish
      refine ⟨h, hmem, o, before, v, answer, ?_, rfl, hid.trans hq.symm, hconsistent,
        hconsistent.fits_event⟩
      rw [hsplit, List.append_assoc]
      rfl

/--
After two registrations were processed, of which the first one was processed twice and its form was
not fetched the second time.
-/
def afterOutage : Memory × Nat :=
  stateAfter (Memory.failing secondFieldsFail) .standard
    [requestFor "A", requestFor "A", requestFor "B"] (cousins ["A", "B"] 5, 0)

theorem outcomes_consistent_after_outage :
    (cousins ["A", "B"] 5).outcomes = [] ∧ (cousins ["A", "B"] 5).published = [] ∧
      (∃ o, Table.get? afterOutage.1.outcomes ⟨"A"⟩ = some o ∧ o.Consistent ∧ o.view.Fits o ∧
        o.view.status = .failed ∧ o.view.isValid = false ∧ o.view.reason = none) ∧
      (∃ o, Table.get? afterOutage.1.outcomes ⟨"B"⟩ = some o ∧ o.Consistent ∧ o.view.Fits o ∧
        o.view.status = .passed ∧ o.view.isValid = true ∧ o.view.reason = some .success) ∧
      afterOutage.1.published.map AuditEvent.moduleId = ["SUCCESS", "PROCESSING_ERROR", "SUCCESS"] ∧
      ∀ e ∈ afterOutage.1.published, ∃ o, e = .ofOutcome o ∧ o.Consistent ∧ e.Fits o := by
  obtain ⟨hstored, hpublished⟩ := outcomes_consistent (Memory.failing secondFieldsFail)
    (·.1.outcomes) (·.1.published) .standard [requestFor "A", requestFor "A", requestFor "B"]
    (cousins ["A", "B"] 5, 0) (Memory.failing_keeps secondFieldsFail) rfl rfl
  obtain ⟨hfailed, hpassed⟩ :
      (Table.get? afterOutage.1.outcomes ⟨"A"⟩).map Outcome.status = some .failed ∧
      (Table.get? afterOutage.1.outcomes ⟨"B"⟩).map Outcome.status = some .passed := by
    decide +kernel
  refine ⟨rfl, rfl, ?_, ?_, by decide +kernel, fun e he => ?_⟩
  · obtain ⟨o, ho, hstatus⟩ := Option.map_eq_some_iff.mp hfailed
    obtain ⟨-, hconsistent, hfits⟩ := hstored _ o ho
    have hnone : o.view.reason = none := hfits.reason_eq_none_iff.mpr hstatus
    have hnot : o.view.isValid = false := by
      refine Bool.eq_false_iff.mpr fun hvalid => ?_
      rw [hfits.isValid_iff, hnone] at hvalid
      cases hvalid
    exact ⟨o, ho, hconsistent, hfits, hstatus, hnot, hnone⟩
  · obtain ⟨o, ho, hstatus⟩ := Option.map_eq_some_iff.mp hpassed
    obtain ⟨-, hconsistent, hfits⟩ := hstored _ o ho
    have hvalid : o.view.isValid = true := hfits.isValid_iff_passed.mpr hstatus
    exact ⟨o, ho, hconsistent, hfits, hstatus, hvalid, hfits.isValid_iff.mp hvalid⟩
  · obtain ⟨h, -, o, u, v, answer, -, he, -, hconsistent, hfits⟩ := hpublished e he
    exact ⟨o, he, hconsistent, hfits⟩

end Birthright
