import Birthright.Proofs.Collaborator.Ledger
import Birthright.Proofs.Eligibility.Course
import Birthright.Proofs.Verification.Conduct

/-!
# The course of the processing of a registration

Every call of the processing may fail, and where it fails decides what was done before. Here all
courses are listed: each part of the processing with its exchanges and its result, and the whole as
they follow one another. What is counted and stored in the end is read off the list.

* `process_course` — every history of the processing is such a course
* `Memory.usage_foldl_after` — the ledger after a history
* `Course.cited_isPrefix` — what is counted is a beginning of what the form cites
-/

namespace Birthright

/-! ## Courses -/

/-- The citations of an eligible applicant are counted, unless the registration has passed before. -/
inductive Charging (a : Applicant) : List Exchange → Except ServiceFailure Unit → Prop where
  | notFetched (e : RecordFailure) :
      Charging a [⟨.fetch a.registrationId, .error e⟩] (.error (.record e))
  | passedBefore {o : Outcome} (ho : o.isValid = true) :
      Charging a [⟨.fetch a.registrationId, .ok (some o)⟩] (.ok ())
  | interrupted {earlier : Option Outcome} {cs rest : List (Nin × String)} {c : Nin × String}
      (e : UsageFailure) (hnew : earlier.any Outcome.isValid = false)
      (hcs : a.citations = cs ++ c :: rest) :
      Charging a (⟨.fetch a.registrationId, .ok earlier⟩ ::
        (citing cs ++ [⟨.cite c.1 c.2, .error e⟩])) (.error (.usage e))
  | charged {earlier : Option Outcome} (hnew : earlier.any Outcome.isValid = false) :
      Charging a (⟨.fetch a.registrationId, .ok earlier⟩ :: citing a.citations) (.ok ())

/-- An outcome is stored and then made known. -/
inductive Concluding (o : Outcome) : List Exchange → Except ServiceFailure Unit → Prop where
  | notStored (e : RecordFailure) : Concluding o [⟨.store o, .error e⟩] (.error (.record e))
  | notPublished (e : AuditFailure) :
      Concluding o [⟨.store o, .ok ()⟩, ⟨.publish (.ofOutcome o), .error e⟩] (.error (.audit e))
  | concluded : Concluding o (concluding o) (.ok ())

/-- A registration is processed. -/
inductive Course (r : Rules) (q : Request) :
    List Exchange → Except ServiceFailure Outcome → Prop where
  /-- The evaluation fails, and this is stored. -/
  | failed {asked t : List Exchange} {e : EvaluationFailure} {x : Except ServiceFailure Unit}
      (hassess : (assess r q.id).Yields asked (.error e))
      (hconclude : Concluding (.ofFailure q.id e.message q.now) t x) :
      Course r q (asked ++ t) (x.bind fun _ => .error (.evaluation e))
  /-- The applicant is not eligible, and this is stored. -/
  | rejected {asked t : List Exchange} {a : Applicant} {v : Verdict}
      {x : Except ServiceFailure Unit} (hassess : (assess r q.id).Yields asked (.ok (a, v)))
      (hno : v.eligible = false) (hconclude : Concluding (.ofVerdict q.id v q.now) t x) :
      Course r q (asked ++ t) (x.bind fun _ => .ok (.ofVerdict q.id v q.now))
  /-- The applicant is eligible, but the citations cannot be counted. -/
  | stopped {asked t : List Exchange} {a : Applicant} {v : Verdict} {e : ServiceFailure}
      (hassess : (assess r q.id).Yields asked (.ok (a, v))) (hyes : v.eligible = true)
      (hcharge : Charging a t (.error e)) : Course r q (asked ++ t) (.error e)
  /-- The applicant is eligible, and this is stored once the citations are counted. -/
  | accepted {asked t u : List Exchange} {a : Applicant} {v : Verdict}
      {x : Except ServiceFailure Unit} (hassess : (assess r q.id).Yields asked (.ok (a, v)))
      (hyes : v.eligible = true) (hcharge : Charging a t (.ok ()))
      (hconclude : Concluding (.ofVerdict q.id v q.now) u x) :
      Course r q (asked ++ (t ++ u)) (x.bind fun _ => .ok (.ofVerdict q.id v q.now))

/-! ## Every history is a course -/

variable {r : Rules} {q : Request} {t : List Exchange}

/-- Citations are counted one after the other, until one fails or all are counted. -/
theorem citeAll_course {a : Applicant} {cs : List (Nin × String)} {x : Except ServiceFailure Unit}
    (h : (citeAll a cs).Yields t x) :
    (t = citing cs ∧ x = .ok ()) ∨ ∃ cs₁ c cs₂ e, cs = cs₁ ++ c :: cs₂ ∧
      t = citing cs₁ ++ [⟨.cite c.1 c.2, .error e⟩] ∧ x = .error (.usage e) := by
  induction cs generalizing t with
  | nil =>
    obtain ⟨rfl, rfl⟩ := Inquiry.yields_pure.mp h
    exact .inl ⟨rfl, rfl⟩
  | cons c others ih =>
    obtain ⟨nin, role⟩ := c
    unfold citeAll at h
    obtain ⟨answer, u, rfl, hrest⟩ := h.of_ask_bind
    cases answer with
    | error e =>
      obtain ⟨rfl, rfl⟩ := Inquiry.yields_pure.mp hrest
      exact .inr ⟨[], (nin, role), others, e, rfl, rfl, rfl⟩
    | ok _ =>
      rcases ih (Inquiry.yields_notes_bind.mp hrest) with ⟨rfl, rfl⟩ | ⟨cs₁, c, cs₂, e, rfl, rfl, rfl⟩
      · exact .inl ⟨rfl, rfl⟩
      · exact .inr ⟨(nin, role) :: cs₁, c, cs₂, e, rfl, rfl, rfl⟩

theorem countCitations_course {a : Applicant} {v : Verdict} {x : Except ServiceFailure Unit}
    (h : (countCitations a v).Yields t x) :
    (v.eligible = false ∧ t = [] ∧ x = .ok ()) ∨ (v.eligible = true ∧ Charging a t x) := by
  unfold countCitations at h
  cases hv : v.eligible with
  | false =>
    rw [hv, if_neg Bool.false_ne_true] at h
    obtain ⟨rfl, rfl⟩ := Inquiry.yields_pure.mp h
    exact .inl ⟨rfl, rfl, rfl⟩
  | true =>
    rw [hv, if_pos rfl] at h
    refine .inr ⟨rfl, ?_⟩
    obtain ⟨answer, u, rfl, hrest⟩ := h.of_ask_bind
    cases answer with
    | error e =>
      obtain ⟨rfl, rfl⟩ := Inquiry.yields_pure.mp hrest
      exact .notFetched e
    | ok earlier =>
      dsimp only at hrest
      split at hrest
      · next hpassed =>
        obtain ⟨o, rfl, ho⟩ := (Option.any_eq_true _ _).mp hpassed
        obtain ⟨rfl, rfl⟩ := Inquiry.yields_pure.mp hrest
        exact .passedBefore ho
      · next hnew =>
        have hnew : earlier.any Outcome.isValid = false := Bool.eq_false_iff.mpr hnew
        rcases citeAll_course hrest with ⟨rfl, rfl⟩ | ⟨cs₁, c, cs₂, e, hcs, rfl, rfl⟩
        · exact .charged hnew
        · exact .interrupted e hnew hcs

theorem conclude_course {o : Outcome} {x : Except ServiceFailure Unit}
    (h : (conclude o).Yields t x) : Concluding o t x := by
  unfold conclude at h
  obtain ⟨answer, u, rfl, hrest⟩ := h.of_ask_bind
  cases answer with
  | error e =>
    obtain ⟨rfl, rfl⟩ := Inquiry.yields_pure.mp hrest
    exact .notStored e
  | ok _ =>
    obtain ⟨published, w, rfl, hend⟩ := hrest.of_ask_bind
    cases published with
    | error e =>
      obtain ⟨rfl, rfl⟩ := Inquiry.yields_pure.mp hend
      exact .notPublished e
    | ok _ =>
      obtain ⟨rfl, rfl⟩ := Inquiry.yields_pure.mp hend
      exact .concluded

/-- **Every history of the processing** is one of the courses. -/
theorem process_course {x : Except ServiceFailure Outcome}
    (h : (process r q.now q.id).Yields t x) : Course r q t x := by
  unfold process at h
  obtain ⟨asked, y, u, rfl, hassess, hrest⟩ := h.of_bind
  cases y with
  | error e =>
    rw [Inquiry.yields_notes_bind] at hrest
    obtain ⟨w, x', w', rfl, hconclude, hrest⟩ := hrest.of_bind
    have hcourse := Course.failed hassess (conclude_course hconclude)
    cases x' with
    | error e' =>
      obtain ⟨rfl, rfl⟩ := Inquiry.yields_pure.mp hrest
      rw [List.append_nil]
      exact hcourse
    | ok _ =>
      obtain ⟨rfl, rfl⟩ := Inquiry.yields_pure.mp hrest
      rw [List.append_nil]
      exact hcourse
  | ok found =>
    obtain ⟨a, v⟩ := found
    obtain ⟨u₁, y, u₂, rfl, hcount, hrest⟩ := hrest.of_bind
    cases y with
    | error e =>
      obtain ⟨rfl, rfl⟩ := Inquiry.yields_pure.mp hrest
      rw [List.append_nil]
      rcases countCitations_course hcount with ⟨-, -, hx⟩ | ⟨hyes, hcharge⟩
      · cases hx
      · exact .stopped hassess hyes hcharge
    | ok _ =>
      obtain ⟨w, x', w', rfl, hconclude, hrest⟩ := hrest.of_bind
      have hcourse : Course r q (asked ++ (u₁ ++ w))
          (x'.bind fun _ => .ok (.ofVerdict q.id v q.now)) := by
        rcases countCitations_course hcount with ⟨hno, rfl, -⟩ | ⟨hyes, hcharge⟩
        · exact .rejected hassess hno (conclude_course hconclude)
        · exact .accepted hassess hyes hcharge (conclude_course hconclude)
      cases x' with
      | error e =>
        obtain ⟨rfl, rfl⟩ := Inquiry.yields_pure.mp hrest
        rw [List.append_nil]
        exact hcourse
      | ok _ =>
        rw [Inquiry.yields_notes_bind] at hrest
        obtain ⟨rfl, rfl⟩ := Inquiry.yields_pure.mp hrest
        rw [List.append_nil]
        exact hcourse

/-- Hence every run of the processing is one. -/
theorem course_of_run {σ : Type} (w : Collaborators σ) (r : Rules) (q : Request) (s : σ) :
    Course r q ((process r q.now q.id).exchanges w s) ((process r q.now q.id).run w s).result :=
  process_course (Inquiry.yields_run w (process r q.now q.id) s)

/-! ## What is counted -/

/-- **The ledger after a history** has counted what was cited in it. -/
theorem Memory.usage_foldl_after {m : Memory} {l : Ledger} (hl : m.usage = .ledger l)
    (t : List Exchange) :
    (t.foldl after m).usage = .ledger (l.charge (t.filterMap Exchange.cited?)) := by
  induction t generalizing m l with
  | nil => exact hl
  | cons e t ih =>
    rw [List.foldl_cons, ih (usage_after hl e), List.filterMap_cons]
    cases e.cited? <;> rfl

theorem onlyAsked_of_assess {id : RegistrationId}
    {y : Except EvaluationFailure (Applicant × Verdict)} (h : (assess r id).Yields t y) :
    OnlyAsked t :=
  ((assess_ensures id).of_yields h).1

/-- Nothing is counted while the registration is evaluated. -/
theorem cited_assess_append {id : RegistrationId} {asked : List Exchange}
    {y : Except EvaluationFailure (Applicant × Verdict)} (h : (assess r id).Yields asked y)
    (t : List Exchange) :
    (asked ++ t).filterMap Exchange.cited? = t.filterMap Exchange.cited? := by
  rw [List.filterMap_append, (onlyAsked_of_assess h).cited, List.nil_append]

/-- Nothing is stored while the registration is evaluated. -/
theorem stored_assess_append {id : RegistrationId} {asked : List Exchange}
    {y : Except EvaluationFailure (Applicant × Verdict)} (h : (assess r id).Yields asked y)
    (t : List Exchange) :
    (asked ++ t).filterMap Exchange.stored? = t.filterMap Exchange.stored? := by
  rw [List.filterMap_append, (onlyAsked_of_assess h).stored, List.nil_append]

/-- The applicant is evaluated as the packet store knows it. -/
theorem eq_applicant_of_assess {id : RegistrationId} {a : Applicant} {v : Verdict} {m : Memory}
    (h : (assess r id).Yields t (.ok (a, v))) (ht : m.Truthful t) : a = m.applicant id := by
  obtain ⟨hasked, hassessed⟩ := (assess_ensures id).of_yields h
  obtain ⟨fields, hfields, rfl, -⟩ := hassessed a v rfl
  have hform : fields = m.fieldsOf id FormField.names := hasked.allowed ht hfields
  rw [hform]
  rfl

theorem Concluding.cited {o : Outcome} {x : Except ServiceFailure Unit} (h : Concluding o t x) :
    t.filterMap Exchange.cited? = [] := by
  cases h <;> rfl

/-- Citations are counted in their order, from the first one on. -/
theorem Charging.cited_isPrefix {a : Applicant} {x : Except ServiceFailure Unit}
    (h : Charging a t x) : t.filterMap Exchange.cited? <+: a.citations := by
  have hfetch (answer) : Exchange.cited? ⟨.fetch a.registrationId, answer⟩ = none := rfl
  cases h with
  | notFetched e => exact List.nil_prefix
  | passedBefore ho => exact List.nil_prefix
  | @interrupted earlier cs rest c e hnew hcs =>
    have hlast : Exchange.cited? ⟨.cite c.1 c.2, .error e⟩ = none := rfl
    rw [List.filterMap_cons, hfetch, List.filterMap_append, cited_citing, List.filterMap_cons, hlast,
      List.filterMap_nil, List.append_nil, hcs]
    exact List.prefix_append cs (c :: rest)
  | charged hnew => simp [hfetch]

/-- **What is counted** is a beginning of what the form cites. -/
theorem Course.cited_isPrefix {x : Except ServiceFailure Outcome} {m : Memory}
    (h : Course r q t x) (ht : m.Truthful t) :
    t.filterMap Exchange.cited? <+: (m.applicant q.id).citations := by
  cases h with
  | failed hassess hconclude =>
    rw [cited_assess_append hassess, hconclude.cited]
    exact List.nil_prefix
  | rejected hassess hno hconclude =>
    rw [cited_assess_append hassess, hconclude.cited]
    exact List.nil_prefix
  | stopped hassess hyes hcharge =>
    rw [cited_assess_append hassess, ← eq_applicant_of_assess hassess (Memory.truthful_append.mp ht).1]
    exact hcharge.cited_isPrefix
  | accepted hassess hyes hcharge hconclude =>
    rw [cited_assess_append hassess, List.filterMap_append, hconclude.cited, List.append_nil,
      ← eq_applicant_of_assess hassess (Memory.truthful_append.mp ht).1]
    exact hcharge.cited_isPrefix

end Birthright
