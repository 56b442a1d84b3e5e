import Birthright.Collaborator.Inquiry

/-!
# What inquiries do

What an inquiry does depends on the answers that it gets. Two ways to say something about it:
what it comes to while the answers stay the same, and what it does whatever comes back. The second
speaks of the history of an inquiry, the calls that it made with their answers, and holds with all
collaborators, whether they fail or change between two calls.

* `resultWith_bind` — the result with answers that stay the same is that of the parts
* `ensures_bind` — what an inquiry that goes on ensures is what its parts ensure one after the other
* `Ensures.run`, `Ensures.next` — it holds of every run, and is kept by every single call
-/

namespace Birthright

/-- A call of an evaluation: a question to the packet store, the registry or the usage guard. -/
def Call.isQuestion : Call → Bool
  | .fields .. | .document .. | .isOverused .. => true
  | .cite .. | .fetch .. | .store .. | .publish .. => false

/-- A call and what came back from it. -/
structure Exchange where
  call : Call
  answer : call.Answer

namespace Inquiry

variable {α β σ : Type}

/-- The exchanges of a run. -/
def exchanges (w : Collaborators σ) : Inquiry α → σ → List Exchange
  | .done _, _ => []
  | .note _ next, s => next.exchanges w s
  | .ask c next, s =>
    ⟨c, (w.answer c s).1⟩ :: (next (w.answer c s).1).exchanges w (w.answer c s).2.2

/-- The calls of a run are those of its exchanges. -/
theorem calls_run (w : Collaborators σ) (x : Inquiry α) (s : σ) :
    (x.run w s).calls = (x.exchanges w s).map Exchange.call := by
  induction x generalizing s with
  | done a => rfl
  | note e next ih => simpa [run, exchanges, Run.after, Run.calls] using ih s
  | ask c next ih =>
    have h := ih (w.answer c s).1 (w.answer c s).2.2
    simp only [run, exchanges, List.map_cons, ← h]
    simp [Run.after, Run.calls, List.filterMap_append]

/-- **The exchanges of an inquiry that goes on** are those of its beginning and then of the rest. -/
theorem exchanges_bind (w : Collaborators σ) (x : Inquiry α) (f : α → Inquiry β) (s : σ) :
    (x >>= f).exchanges w s
      = x.exchanges w s ++ (f (x.run w s).result).exchanges w (x.run w s).state := by
  show (x.bind f).exchanges w s = _
  induction x generalizing s with
  | done a => rfl
  | note e next ih => exact ih s
  | ask c next ih => exact congrArg _ (ih (w.answer c s).1 (w.answer c s).2.2)

end Inquiry

/-! ## Answers that stay the same -/

/-- Collaborators that always give the same answer to a call. -/
def Collaborators.fixed (answers : (c : Call) → c.Answer) : Collaborators Unit :=
  ⟨fun c s => (answers c, [], s)⟩

namespace Inquiry

variable {α β : Type} (answers : (c : Call) → c.Answer)

/-- What an inquiry comes to if the answers stay the same. -/
def resultWith (x : Inquiry α) : α := (x.run (.fixed answers) ()).result

@[simp] theorem resultWith_pure (a : α) : (pure a : Inquiry α).resultWith answers = a := rfl

@[simp] theorem resultWith_bind (x : Inquiry α) (f : α → Inquiry β) :
    (x >>= f).resultWith answers = (f (x.resultWith answers)).resultWith answers := by
  unfold resultWith
  rw [run_bind]
  rfl

@[simp] theorem resultWith_noted (r : List Event × α) : (noted r).resultWith answers = r.2 := by
  simp [noted]

@[simp] theorem resultWith_fields (id : RegistrationId) (names : List String) :
    (fields id names).resultWith answers = answers (.fields id names) := rfl

@[simp] theorem resultWith_document (nin : Nin) :
    (document nin).resultWith answers = answers (.document nin) := rfl

@[simp] theorem resultWith_isOverused (nin : Nin) (role : String) :
    (isOverused nin role).resultWith answers = answers (.isOverused nin role) := rfl

end Inquiry

/-! ## Whatever comes back -/

namespace Inquiry

variable {α β σ : Type}

/--
Whatever comes back from its calls, each call of the inquiry is as `must` says after the exchanges
before it, and the result is as `ends` says after all of them.
-/
def Ensures (must : List Exchange → Call → Prop) (ends : List Exchange → α → Prop) :
    Inquiry α → List Exchange → Prop
  | .done a, past => ends past a
  | .note _ next, past => next.Ensures must ends past
  | .ask c next, past =>
    must past c ∧ ∀ answer, (next answer).Ensures must ends (past ++ [⟨c, answer⟩])

/-- The next call of an inquiry, and how it goes on; none where the inquiry has come to its end. -/
def next? : Inquiry α → Option ((c : Call) × (c.Answer → Inquiry α))
  | .done _ => none
  | .note _ next => next.next?
  | .ask c next => some ⟨c, next⟩

variable {must must' : List Exchange → Call → Prop} {ends ends' : List Exchange → α → Prop}
  {past : List Exchange} {x : Inquiry α}

@[simp] theorem ensures_pure {a : α} : (pure a : Inquiry α).Ensures must ends past ↔ ends past a :=
  Iff.rfl

/-- **An inquiry that goes on** ensures what its beginning and then the rest ensures. -/
theorem ensures_bind {f : α → Inquiry β} {ends : List Exchange → β → Prop} :
    (x >>= f).Ensures must ends past
      ↔ x.Ensures must (fun p a => (f a).Ensures must ends p) past := by
  show (x.bind f).Ensures must ends past ↔ _
  -- Induction on the tree: the history grows with every call on both sides alike.
  induction x generalizing past with
  | done a => exact Iff.rfl
  | note e next ih => exact ih
  | ask c next ih => exact and_congr_right fun _ => forall_congr' fun answer => ih answer

/-- Where an inquiry begins with a call, the rest has to hold whatever comes back from it. -/
theorem ensures_ask_bind {c : Call} {f : c.Answer → Inquiry α} :
    (ask c pure >>= f).Ensures must ends past
      ↔ must past c ∧ ∀ answer, (f answer).Ensures must ends (past ++ [⟨c, answer⟩]) := Iff.rfl

/-- Notes at the beginning of an inquiry do not count. -/
@[simp] theorem ensures_notes_bind {es : List Event} {f : Unit → Inquiry α} :
    (notes es >>= f).Ensures must ends past ↔ (f ()).Ensures must ends past := by
  rw [ensures_bind]
  induction es with
  | nil => exact Iff.rfl
  | cons e rest ih => exact ih

@[simp] theorem ensures_noted {r : List Event × α} :
    (noted r).Ensures must ends past ↔ ends past r.2 := by
  simp [noted]

namespace Ensures

theorem mono (h : x.Ensures must ends past) (hmust : ∀ p c, must p c → must' p c)
    (hends : ∀ p a, ends p a → ends' p a) : x.Ensures must' ends' past := by
  induction x generalizing past with
  | done a => exact hends past a h
  | note e next ih => exact ih h
  | ask c next ih => exact ⟨hmust past c h.1, fun answer => ih answer (h.2 answer)⟩

/-- **What is ensured holds of every run.** -/
theorem run (w : Collaborators σ) (s : σ) (h : x.Ensures must ends past) :
    ends (past ++ x.exchanges w s) (x.run w s).result := by
  induction x generalizing past s with
  | done a =>
    show ends (past ++ []) a
    rw [List.append_nil]
    exact h
  | note e next ih => exact ih s h
  | ask c next ih =>
    have hrest := ih _ (w.answer c s).2.2 (h.2 (w.answer c s).1)
    rw [List.append_assoc] at hrest
    exact hrest

/-- **What is ensured is kept** by every single call. -/
theorem next {c : Call} {f : c.Answer → Inquiry α} (h : x.Ensures must ends past)
    (hnext : x.next? = some ⟨c, f⟩) :
    must past c ∧ ∀ answer, (f answer).Ensures must ends (past ++ [⟨c, answer⟩]) := by
  induction x with
  | done a => cases hnext
  | note e next ih => exact ih h hnext
  | ask c next ih =>
    cases hnext
    exact h

end Ensures

end Inquiry

end Birthright
