import Birthright.Collaborator.InMemory
import Birthright.Proofs.Collaborator.Conduct

/-!
# Collaborators that fail now and then

Any call to the collaborators in memory may fail, now and not a moment later. A call that fails
changes nothing; all others get an answer that is true of the memory. Hence the exchanges of a run
say what the memory is afterwards.

* `answer_allowed` — answers are true of the memory, and the memory changes as the exchange says
* `Faithful.truthful` — so it is along every run of collaborators that answer from a memory
* `truthful_exchanges` — runs with calls that fail as planned
-/

namespace Birthright

/-- What comes back from a call that fails. -/
def Call.failed : (c : Call) → Fault → c.Answer
  | .fields .., f => .error (Memory.fieldFailure f)
  | .document .., f => .error (.unavailable (Memory.cause f))
  | .isOverused .., f => .error (.unavailable (Memory.cause f))
  | .cite .., f => .error (.unavailable (Memory.cause f))
  | .fetch .., f => .error (Memory.recordFailure f)
  | .store .., f => .error (Memory.recordFailure f)
  | .publish .., f => .error (.transport (Memory.cause f))

/-- Whether a call failed. -/
def Exchange.isFailure : Exchange → Bool
  | ⟨.fields .., .error _⟩ | ⟨.document .., .error _⟩ | ⟨.isOverused .., .error _⟩
  | ⟨.cite .., .error _⟩ | ⟨.fetch .., .error _⟩ | ⟨.store .., .error _⟩
  | ⟨.publish .., .error _⟩ => true
  | _ => false

namespace Memory

/--
Collaborators in memory of which any call may fail. The calls are counted, and the plan says of a
call with its number whether and how it fails.
-/
def failing (plan : Nat → Call → Option Fault) : Collaborators (Memory × Nat) where
  answer c s :=
    match plan s.2 c with
    | some f => (c.failed f, [], s.1, s.2 + 1)
    | none =>
      let (answer, events, m) := Memory.answer c s.1
      (answer, events, m, s.2 + 1)

/-- What is true of a memory: an answer to a question, and a failure of any call. -/
def Allows (m : Memory) : Exchange → Prop
  | ⟨.fields id names, .ok fields⟩ => fields = m.fieldsOf id names
  | ⟨.document nin, .ok d⟩ => d = Table.get? m.registry nin
  | ⟨.isOverused nin _, .ok b⟩ => b = m.isOverused nin
  | ⟨.fetch id, .ok o⟩ => o = Table.get? m.outcomes id
  | _ => True

/-- The memory after an exchange: a citation, an outcome or an event that was taken is kept. -/
def after (m : Memory) : Exchange → Memory
  | ⟨.cite nin role, .ok ()⟩ => (m.cite nin role).2
  | ⟨.store o, .ok ()⟩ => { m with outcomes := Table.insert m.outcomes o.registrationId o }
  | ⟨.publish e, .ok ()⟩ => { m with published := m.published ++ [e] }
  | _ => m

/-- One exchange after the other is true of the memory. -/
def Truthful (m : Memory) : List Exchange → Prop
  | [] => True
  | e :: t => m.Allows e ∧ (m.after e).Truthful t

/-- What no call changes is the same: the forms, the documents of the registry and the outages. -/
structure SameSources (m m' : Memory) : Prop where
  packets : m'.packets = m.packets
  registry : m'.registry = m.registry
  outages : m'.outages = m.outages

theorem SameSources.trans {m m' m'' : Memory} (h : SameSources m m') (h' : SameSources m' m'') :
    SameSources m m'' :=
  ⟨h'.packets.trans h.packets, h'.registry.trans h.registry, h'.outages.trans h.outages⟩

/-! ## Single calls -/

/-- **Answers from memory are true**, and the memory changes as the exchange says. -/
theorem answer_allowed (c : Call) (m : Memory) :
    m.Allows ⟨c, (m.answer c).1⟩ ∧ (m.answer c).2.2 = m.after ⟨c, (m.answer c).1⟩ := by
  -- Every call looks for an outage first: if there is one it fails, and else it is answered.
  cases c <;> unfold answer <;> dsimp only <;> split <;> exact ⟨by simp [Allows], rfl⟩

theorem failed_allowed (c : Call) (m : Memory) (f : Fault) :
    m.Allows ⟨c, c.failed f⟩ ∧ m = m.after ⟨c, c.failed f⟩ := by
  cases c <;> exact ⟨trivial, rfl⟩

/-- A call that the plan says nothing about does not fail where no outage was set. -/
theorem answer_not_failure {m : Memory} (hm : m.outages = []) (c : Call) :
    Exchange.isFailure ⟨c, (m.answer c).1⟩ = false := by
  cases c <;> unfold answer <;> rw [hm] <;> rfl

theorem sources_cite (m : Memory) (nin : Nin) (role : String) :
    SameSources m (m.cite nin role).2 := by
  unfold Memory.cite
  split
  · exact ⟨rfl, rfl, rfl⟩
  · exact ⟨rfl, rfl, rfl⟩

theorem sources_after (m : Memory) (e : Exchange) : SameSources m (m.after e) := by
  unfold after
  split
  · next nin role => exact m.sources_cite nin role
  · exact ⟨rfl, rfl, rfl⟩
  · exact ⟨rfl, rfl, rfl⟩
  · exact ⟨rfl, rfl, rfl⟩

/-- To ask changes nothing. -/
theorem after_of_isQuestion (m : Memory) {e : Exchange} (he : e.call.isQuestion = true) :
    m.after e = m := by
  unfold after
  split
  · cases he
  · cases he
  · cases he
  · rfl

/-! ## Many calls -/

theorem truthful_append {m : Memory} {t u : List Exchange} :
    m.Truthful (t ++ u) ↔ m.Truthful t ∧ (t.foldl after m).Truthful u := by
  induction t generalizing m with
  | nil => simp [Truthful]
  | cons e t ih =>
    simp only [List.cons_append, Truthful, List.foldl_cons, ih]
    exact and_assoc.symm

/-- **Forms, documents and outages stay as they are**, whatever is exchanged. -/
theorem sources_foldl_after (m : Memory) (t : List Exchange) :
    SameSources m (t.foldl after m) := by
  induction t generalizing m with
  | nil => exact ⟨rfl, rfl, rfl⟩
  | cons e t ih => exact (m.sources_after e).trans (ih (m.after e))

theorem foldl_after_of_questions (m : Memory) {t : List Exchange}
    (ht : ∀ e ∈ t, e.call.isQuestion = true) : t.foldl after m = m := by
  induction t with
  | nil => rfl
  | cons e t ih =>
    rw [List.foldl_cons, after_of_isQuestion m (ht e List.mem_cons_self)]
    exact ih fun e' he' => ht e' (List.mem_cons_of_mem _ he')

end Memory

/-! ## Faithful collaborators -/

section Faithful

variable {α σ : Type} {w : Collaborators σ} {memory : σ → Memory}

/-- The collaborators keep a memory and answer truly from it, if they do not fail. -/
def Collaborators.Faithful (w : Collaborators σ) (memory : σ → Memory) : Prop :=
  ∀ c s, (memory s).Allows ⟨c, (w.answer c s).1⟩ ∧
    memory (w.answer c s).2.2 = (memory s).after ⟨c, (w.answer c s).1⟩

theorem Collaborators.Faithful.truthful (h : w.Faithful memory) (x : Inquiry α) (s : σ) :
    (memory s).Truthful (x.exchanges w s) ∧
      memory (x.run w s).state = (x.exchanges w s).foldl Memory.after (memory s) := by
  induction x generalizing s with
  | done a => exact ⟨trivial, rfl⟩
  | note e next ih => exact ih s
  | ask c next ih =>
    obtain ⟨hallows, hafter⟩ := h c s
    obtain ⟨htruthful, hstate⟩ := ih (w.answer c s).1 (w.answer c s).2.2
    rw [hafter] at htruthful hstate
    exact ⟨⟨hallows, htruthful⟩, hstate⟩

theorem collaborators_faithful : Memory.collaborators.Faithful id :=
  fun c m => m.answer_allowed c

/-- Without outages the collaborators in memory do not fail. -/
theorem not_isFailure_of_mem {m : Memory} (hm : m.outages = []) (x : Inquiry α) {e : Exchange}
    (he : e ∈ x.exchanges Memory.collaborators m) : e.isFailure = false := by
  induction x generalizing m with
  | done a => cases he
  | note _ next ih => exact ih hm he
  | ask c next ih =>
    rcases List.mem_cons.mp he with rfl | hrest
    · exact Memory.answer_not_failure hm c
    · refine ih (m.answer c).1 ?_ hrest
      show (m.answer c).2.2.outages = []
      rw [(m.answer_allowed c).2, (m.sources_after _).outages, hm]

end Faithful

/-! ## Runs -/

section Runs

variable {α : Type} (plan : Nat → Call → Option Fault)

theorem failing_answer (c : Call) (m : Memory) (k : Nat) :
    m.Allows ⟨c, ((Memory.failing plan).answer c (m, k)).1⟩ ∧
      ((Memory.failing plan).answer c (m, k)).2.2
        = (m.after ⟨c, ((Memory.failing plan).answer c (m, k)).1⟩, k + 1) := by
  simp only [Memory.failing]
  split
  · next f _ =>
    obtain ⟨hallows, hafter⟩ := m.failed_allowed c f
    exact ⟨hallows, congrArg (·, k + 1) hafter⟩
  · obtain ⟨hallows, hafter⟩ := m.answer_allowed c
    exact ⟨hallows, congrArg (·, k + 1) hafter⟩

theorem failing_faithful : (Memory.failing plan).Faithful Prod.fst := by
  intro c s
  obtain ⟨hallows, hafter⟩ := failing_answer plan c s.1 s.2
  exact ⟨hallows, congrArg Prod.fst hafter⟩

/-- **A run is truthful**, and its exchanges say what the memory is in the end. -/
theorem truthful_exchanges (x : Inquiry α) (m : Memory) (k : Nat) :
    m.Truthful (x.exchanges (Memory.failing plan) (m, k)) ∧
      (x.run (Memory.failing plan) (m, k)).state.1
        = (x.exchanges (Memory.failing plan) (m, k)).foldl Memory.after m :=
  (failing_faithful plan).truthful x (m, k)

/-- Only calls that the plan has fail do fail. -/
theorem isQuestion_of_isFailure {m : Memory} (hm : m.outages = [])
    (hplan : ∀ k c, c.isQuestion = false → plan k c = none) (x : Inquiry α) (k : Nat) {e : Exchange}
    (he : e ∈ x.exchanges (Memory.failing plan) (m, k)) (hfail : e.isFailure = true) :
    e.call.isQuestion = true := by
  induction x generalizing m k with
  | done a => cases he
  | note _ next ih => exact ih hm k he
  | ask c next ih =>
    simp only [Inquiry.exchanges, List.mem_cons, (failing_answer plan c m k).2] at he
    rcases he with rfl | hrest
    -- A call that is no question got its answer from memory, where no outage is set.
    · cases hquestion : c.isQuestion with
      | true => rfl
      | false =>
        simp only [Memory.failing, hplan k c hquestion, Memory.answer_not_failure hm] at hfail
        cases hfail
    · exact ih _ ((m.sources_after _).outages.trans hm) (k + 1) hrest

end Runs

end Birthright
