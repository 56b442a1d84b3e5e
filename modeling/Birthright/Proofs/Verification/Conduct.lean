import Birthright.Verification.Service
import Birthright.Proofs.Collaborator.Disruption
import Birthright.Proofs.Eligibility.Conduct

/-!
# What the processing of a registration does

Processing asks first; then it looks up whether the registration has passed, counts its citations,
stores one outcome and makes it known, in this order. What is counted and stored follows from what
came back.

* `process_ensures` — an outcome that passes is stored only when the registration is cleared, and
  the citations are counted if it has not passed before
-/

namespace Birthright

open Calendar (Instant)

/-- That a registration shall be processed, and when. -/
structure Request where
  id : RegistrationId
  now : Instant

/-- The citation that an exchange counts. -/
def Exchange.cited? : Exchange → Option (Nin × String)
  | ⟨.cite nin role, .ok ()⟩ => some (nin, role)
  | _ => none

/-- The outcome that an exchange stores. -/
def Exchange.stored? : Exchange → Option Outcome
  | ⟨.store o, .ok ()⟩ => some o
  | _ => none

/-- An exchange that stores an outcome checks no number. -/
theorem Exchange.check?_eq_none_of_stored {e : Exchange} {o : Outcome} (h : e.stored? = some o) :
    e.check? = none := by
  unfold Exchange.stored? at h
  split at h
  · rfl
  · cases h

theorem Exchange.cited?_eq_none_of_check {e : Exchange} {x : Option Nin} (h : e.check? = some x) :
    e.cited? = none := by
  unfold Exchange.cited?
  split
  · cases h
  · rfl

/-- The applicant of a registration as the packet store knows it. -/
def Memory.applicant (m : Memory) (id : RegistrationId) : Applicant :=
  .ofFields id (m.fieldsOf id FormField.names)

/-- Whether a registration has passed as the repository knows it. -/
def Memory.hasPassed (m : Memory) (id : RegistrationId) : Bool :=
  (Table.get? m.outcomes id).any Outcome.isValid

/-- Exchanges that count citations one after the other. -/
def citing (cs : List (Nin × String)) : List Exchange := cs.map fun c => ⟨.cite c.1 c.2, .ok ()⟩

/-- Exchanges that store an outcome and make it known. -/
def concluding (o : Outcome) : List Exchange :=
  [⟨.store o, .ok ()⟩, ⟨.publish (.ofOutcome o), .ok ()⟩]

/-- One of the calls that are no questions failed. -/
def Broken (t : List Exchange) : Prop := ∃ e ∈ t, e.isFailure = true ∧ e.call.isQuestion = false

/--
A registration may be stored as one that passes: a number that its form cites vouches for it, and
its citations are counted, or the repository said that it has passed before.
-/
def Cleared (id : RegistrationId) (past : List Exchange) : Prop :=
  ∃ fields, ⟨.fields id FormField.names, .ok fields⟩ ∈ past ∧
    VouchedByCitation (.ofFields id fields) past ∧
    ((∃ o, Outcome.isValid o = true ∧ ⟨.fetch id, .ok (some o)⟩ ∈ past) ∨
      ∀ e ∈ citing (Applicant.ofFields id fields).citations, e ∈ past)

/-- The calls that the processing of a registration may make. -/
def Lawful (id : RegistrationId) (past : List Exchange) : Call → Prop
  | .fields .. | .document .. | .isOverused .. => OnlyAsked past
  | .fetch id' => id' = id
  | .cite .. | .publish .. => True
  | .store o => o.registrationId = id ∧ (o.isValid = true → Cleared id past)

/--
If no call but a question failed, one outcome was stored, and the citations were counted exactly if
it passes and the repository did not know this before.
-/
def Accounted (id : RegistrationId) (t : List Exchange) : Prop :=
  ∀ m : Memory, m.Truthful t → ¬Broken t → ∃ o, o.registrationId = id ∧
    t.filterMap Exchange.stored? = [o] ∧
    t.filterMap Exchange.cited? =
      if o.isValid = true ∧ m.hasPassed id = false then (m.applicant id).citations else []

/-! ## What is kept -/

namespace Memory

theorem applicant_congr {m m' : Memory} (h : m'.packets = m.packets) (id : RegistrationId) :
    m'.applicant id = m.applicant id := by
  unfold applicant fieldsOf
  rw [h]

theorem outcomes_cite (m : Memory) (nin : Nin) (role : String) :
    (m.cite nin role).2.outcomes = m.outcomes := by
  unfold Memory.cite
  split <;> rfl

theorem outcomes_after (m : Memory) (e : Exchange) :
    (m.after e).outcomes = match e.stored? with
      | some o => Table.insert m.outcomes o.registrationId o
      | none => m.outcomes := by
  obtain ⟨c, answer⟩ := e
  cases c with
  | cite nin role => cases answer <;> first | rfl | exact m.outcomes_cite nin role
  | _ => cases answer <;> rfl

/-- **A registration has passed** if the last outcome that was stored for it did. -/
theorem hasPassed_after (m : Memory) (e : Exchange) (id : RegistrationId) :
    (m.after e).hasPassed id = match e.stored? with
      | some o => if o.registrationId = id then o.isValid else m.hasPassed id
      | none => m.hasPassed id := by
  unfold hasPassed
  rw [outcomes_after]
  split
  · rw [Table.get?_insert]
    split <;> rfl
  · rfl

theorem hasPassed_foldl_after (m : Memory) (t : List Exchange) (id : RegistrationId) :
    (t.foldl after m).hasPassed id = (t.filterMap Exchange.stored?).foldl
      (fun passed o => if o.registrationId = id then o.isValid else passed) (m.hasPassed id) := by
  induction t generalizing m with
  | nil => rfl
  | cons e t ih =>
    rw [List.foldl_cons, ih, hasPassed_after, List.filterMap_cons]
    cases e.stored? <;> rfl

theorem usage_after {m : Memory} {l : Ledger} (hl : m.usage = .ledger l) (e : Exchange) :
    (m.after e).usage = .ledger (match e.cited? with
      | some (nin, _) => l.cite nin
      | none => l) := by
  obtain ⟨c, answer⟩ := e
  cases c with
  | cite nin role =>
    cases answer with
    | error _ => exact hl
    | ok _ => simp [after, Memory.cite, hl, Exchange.cited?]
  | _ => cases answer <;> exact hl

end Memory

variable {r : Rules} {id : RegistrationId} {past : List Exchange}

theorem lawful_of_asking {c : Call} (h : Asking past c) : Lawful id past c := by
  obtain ⟨hquestion, hasked⟩ := h
  cases c with
  | fields => exact hasked
  | document => exact hasked
  | isOverused => exact hasked
  | cite => cases hquestion
  | fetch => cases hquestion
  | store => cases hquestion
  | publish => cases hquestion

/-- A call that fails breaks the processing, if it is no question. -/
theorem broken_append {e : Exchange} (hfail : e.isFailure = true)
    (hcall : e.call.isQuestion = false) : Broken (past ++ [e]) :=
  ⟨e, by simp, hfail, hcall⟩

/-! ## The parts of the processing -/

theorem citeAll_ensures (a : Applicant) (cs : List (Nin × String)) :
    (citeAll a cs).Ensures (Lawful id)
      (fun t x => (x = .ok () ∧ t = past ++ citing cs) ∨ ((∃ e, x = .error e) ∧ Broken t)) past := by
  induction cs generalizing past with
  | nil => exact .inl ⟨rfl, by simp [citing]⟩
  | cons c others ih =>
    obtain ⟨nin, role⟩ := c
    unfold citeAll
    refine Inquiry.ensures_ask_bind.mpr ⟨trivial, fun answer => ?_⟩
    split
    · next e => exact .inr ⟨⟨_, rfl⟩, broken_append rfl rfl⟩
    · rw [Inquiry.ensures_notes_bind]
      refine ih.mono (fun _ _ h => h) ?_
      rintro t x (⟨hx, ht⟩ | hbroken)
      · exact .inl ⟨hx, by rw [ht]; simp [citing]⟩
      · exact .inr hbroken

/-- **Citations are counted** if the applicant is eligible and has not passed before. -/
theorem countCitations_ensures {a : Applicant} {v : Verdict} (hid : a.registrationId = id) :
    (countCitations a v).Ensures (Lawful id)
      (fun t x =>
        (x = .ok () ∧ v.eligible = false ∧ t = past) ∨
        (x = .ok () ∧ v.eligible = true ∧ ∃ earlier : Option Outcome,
          t = past ++ ⟨.fetch id, .ok earlier⟩ ::
            if earlier.any Outcome.isValid then [] else citing a.citations) ∨
        ((∃ e, x = .error e) ∧ Broken t)) past := by
  unfold countCitations
  split
  · next hv =>
    rw [hid]
    refine Inquiry.ensures_ask_bind.mpr ⟨rfl, fun answer => ?_⟩
    split
    · exact .inr (.inr ⟨⟨_, rfl⟩, broken_append rfl rfl⟩)
    · next earlier =>
      split
      · next hpassed => exact .inr (.inl ⟨rfl, hv, earlier, by simp [hpassed]⟩)
      · next hpassed =>
        refine (citeAll_ensures a a.citations).mono (fun _ _ h => h) ?_
        rintro t x (⟨hx, ht⟩ | hbroken)
        · exact .inr (.inl ⟨hx, hv, earlier, by rw [ht]; simp [hpassed]⟩)
        · exact .inr (.inr hbroken)
  · next hv => exact .inl ⟨rfl, by simpa using hv, rfl⟩

theorem conclude_ensures {o : Outcome} (hstore : Lawful id past (.store o)) :
    (conclude o).Ensures (Lawful id) (fun t _ => Broken t ∨ t = past ++ concluding o) past := by
  unfold conclude
  refine Inquiry.ensures_ask_bind.mpr ⟨hstore, fun answer => ?_⟩
  split
  · exact .inl (broken_append rfl rfl)
  · refine Inquiry.ensures_ask_bind.mpr ⟨trivial, fun answer => ?_⟩
    split
    · exact .inl (broken_append rfl rfl)
    · exact .inr (by simp [concluding])

/-! ## What is counted and stored -/

/-- Who is eligible passes. -/
theorem isValid_ofVerdict (id : RegistrationId) (v : Verdict) (now : Instant) :
    (Outcome.ofVerdict id v now).isValid = v.eligible := by
  cases h : v.eligible <;> simp [Outcome.isValid, Outcome.ofVerdict, h]

@[simp] theorem cited_citing (cs : List (Nin × String)) :
    (citing cs).filterMap Exchange.cited? = cs := by
  simp [citing, Exchange.cited?, List.filterMap_map, Function.comp_def]

@[simp] theorem stored_citing (cs : List (Nin × String)) :
    (citing cs).filterMap Exchange.stored? = [] := by
  rw [citing, List.filterMap_map]
  exact List.filterMap_eq_nil_iff.mpr fun _ _ => rfl

@[simp] theorem checks_citing (cs : List (Nin × String)) :
    (citing cs).filterMap Exchange.check? = [] := by
  rw [citing, List.filterMap_map]
  exact List.filterMap_eq_nil_iff.mpr fun _ _ => rfl

@[simp] theorem cited_concluding (o : Outcome) :
    (concluding o).filterMap Exchange.cited? = [] := rfl

@[simp] theorem stored_concluding (o : Outcome) :
    (concluding o).filterMap Exchange.stored? = [o] := rfl

/-- What only other calls than questions do was not done where it was only asked. -/
theorem OnlyAsked.filterMap_eq_nil {β : Type} {f : Exchange → Option β} {t : List Exchange}
    (h : OnlyAsked t) (hf : ∀ e, e.call.isQuestion = true → f e = none) : t.filterMap f = [] :=
  List.filterMap_eq_nil_iff.mpr fun e he => hf e (h e he)

theorem OnlyAsked.cited {t : List Exchange} (h : OnlyAsked t) :
    t.filterMap Exchange.cited? = [] := by
  refine h.filterMap_eq_nil fun e he => ?_
  unfold Exchange.cited?
  split
  · cases he
  · rfl

theorem OnlyAsked.stored {t : List Exchange} (h : OnlyAsked t) :
    t.filterMap Exchange.stored? = [] := by
  refine h.filterMap_eq_nil fun e he => ?_
  unfold Exchange.stored?
  split
  · cases he
  · rfl

/-- While it is only asked, all answers are true of the same memory. -/
theorem OnlyAsked.allowed {t : List Exchange} (h : OnlyAsked t) {m : Memory} (ht : m.Truthful t)
    {e : Exchange} (he : e ∈ t) : m.Allows e := by
  obtain ⟨u, v, rfl⟩ := List.append_of_mem he
  have hu : ∀ e' ∈ u, e'.call.isQuestion = true := fun e' he' => h e' (by simp [he'])
  have hrest := (Memory.truthful_append.mp ht).2
  rw [m.foldl_after_of_questions hu] at hrest
  exact hrest.1

/-- An evaluation that came to no eligible verdict: the outcome is stored and nothing is counted. -/
theorem accounted_of_not_valid {t : List Exchange} {o : Outcome} (ht : OnlyAsked t)
    (hid : o.registrationId = id) (hvalid : o.isValid = false) :
    Accounted id (t ++ concluding o) := by
  intro m _ _
  refine ⟨o, hid, ?_, ?_⟩
  · simp [List.filterMap_append, ht.stored]
  · simp [List.filterMap_append, ht.cited, hvalid]

/-- The applicant is eligible: what is counted depends on what the repository said. -/
theorem accounted_of_valid {t : List Exchange} {o : Outcome} {fields : Table String String}
    {earlier : Option Outcome} (ht : OnlyAsked t)
    (hfields : ⟨.fields id FormField.names, .ok fields⟩ ∈ t) (hid : o.registrationId = id)
    (hvalid : o.isValid = true) :
    Accounted id ((t ++ ⟨.fetch id, .ok earlier⟩ ::
      if earlier.any Outcome.isValid then []
      else citing (Applicant.ofFields id fields).citations) ++ concluding o) := by
  intro m htruthful _
  obtain ⟨hasked, hrest⟩ := Memory.truthful_append.mp (Memory.truthful_append.mp htruthful).1
  rw [m.foldl_after_of_questions ht] at hrest
  -- Nothing has changed since the beginning, so the repository answered from that memory.
  have hearlier : earlier = Table.get? m.outcomes id := hrest.1
  have hform : fields = m.fieldsOf id FormField.names := ht.allowed hasked hfields
  have hpassed : m.hasPassed id = earlier.any Outcome.isValid := by rw [hearlier]; rfl
  have hcite : Exchange.cited? ⟨.fetch id, .ok earlier⟩ = none := rfl
  have hstore : Exchange.stored? ⟨.fetch id, .ok earlier⟩ = none := rfl
  refine ⟨o, hid, ?_, ?_⟩
  · cases earlier.any Outcome.isValid <;> simp [List.filterMap_append, ht.stored, hstore]
  · rw [hpassed, Memory.applicant, ← hform]
    cases earlier.any Outcome.isValid <;> simp [List.filterMap_append, ht.cited, hcite, hvalid]

theorem vouching?_append_of_not_checks {t u : List Exchange} (h : u.filterMap Exchange.check? = []) :
    vouching? (t ++ u) = vouching? t := by
  simp [vouching?, List.filterMap_append, h]

/-- Who is vouched for stays so, and is cleared once the repository was asked. -/
theorem cleared_of_vouched {t : List Exchange} {fields : Table String String}
    {earlier : Option Outcome} (hfields : ⟨.fields id FormField.names, .ok fields⟩ ∈ t)
    (hvouched : VouchedByCitation (.ofFields id fields) t) :
    Cleared id (t ++ ⟨.fetch id, .ok earlier⟩ ::
      if earlier.any Outcome.isValid then []
      else citing (Applicant.ofFields id fields).citations) := by
  obtain ⟨nin, role, hcited, hvouching⟩ := hvouched
  refine ⟨fields, List.mem_append_left _ hfields, ⟨nin, role, hcited, ?_⟩, ?_⟩
  · rw [vouching?_append_of_not_checks, hvouching]
    have hfetch : Exchange.check? ⟨.fetch id, .ok earlier⟩ = none := rfl
    split <;> simp [hfetch]
  · cases hpassed : earlier.any Outcome.isValid with
    | true =>
      obtain ⟨o, rfl, ho⟩ := Option.any_eq_true _ _ |>.mp hpassed
      exact .inl ⟨o, ho, by simp⟩
    | false => exact .inr fun e he => by simp [he]

/-- Once the outcome was stored and made known, nothing more is done. -/
theorem conclude_bind_ensures {α : Type} {o : Outcome} {f : Except ServiceFailure Unit → Inquiry α}
    (hstore : Lawful id past (.store o)) (haccounted : Accounted id (past ++ concluding o))
    (hf : ∀ x t, Accounted id t → (f x).Ensures (Lawful id) (fun t _ => Accounted id t) t) :
    (conclude o >>= f).Ensures (Lawful id) (fun t _ => Accounted id t) past := by
  rw [Inquiry.ensures_bind]
  refine (conclude_ensures hstore).mono (fun _ _ h => h) ?_
  rintro t x (hbroken | rfl)
  · exact hf x t fun m _ hunbroken => absurd hbroken hunbroken
  · exact hf x _ haccounted

/-- **What the processing of a registration does**, whatever comes back. -/
theorem process_ensures (now : Instant) :
    (process r now id).Ensures (Lawful id) (fun t _ => Accounted id t) [] := by
  unfold process
  rw [Inquiry.ensures_bind]
  refine (assess_ensures id).mono (fun _ _ h => lawful_of_asking h) ?_
  rintro t x ⟨hasked, hassessed⟩
  cases x with
  | error e =>
    -- The evaluation failed, and this is what is stored.
    have hstore : Lawful id t (.store (.ofFailure id e.message now)) := ⟨rfl, fun h => nomatch h⟩
    rw [Inquiry.ensures_notes_bind]
    refine conclude_bind_ensures hstore (accounted_of_not_valid hasked rfl rfl) fun x t h => ?_
    cases x <;> exact h
  | ok found =>
    obtain ⟨a, v⟩ := found
    obtain ⟨fields, hfields, rfl, hvouched⟩ := hassessed a v rfl
    have hvalid := isValid_ofVerdict id v now
    rw [Inquiry.ensures_bind]
    refine (countCitations_ensures rfl).mono (fun _ _ h => h) ?_
    rintro t' x' (⟨rfl, hno, rfl⟩ | ⟨rfl, hyes, earlier, rfl⟩ | ⟨⟨e, rfl⟩, hbroken⟩)
    · -- The applicant is not eligible: nothing is looked up or counted.
      rw [hno] at hvalid
      have hstore : Lawful id t' (.store (.ofVerdict id v now)) :=
        ⟨rfl, fun h => absurd h (by simp [hvalid])⟩
      refine conclude_bind_ensures hstore (accounted_of_not_valid hasked rfl hvalid)
        fun x t h => ?_
      cases x <;> simpa using h
    · -- The applicant is eligible, and was counted now or had passed before.
      rw [hyes] at hvalid
      refine conclude_bind_ensures ⟨rfl, fun _ => cleared_of_vouched hfields (hvouched hyes)⟩
        (accounted_of_valid hasked hfields rfl hvalid) fun x t h => ?_
      cases x <;> simpa using h
    · exact fun m _ hunbroken => absurd hbroken hunbroken

end Birthright
