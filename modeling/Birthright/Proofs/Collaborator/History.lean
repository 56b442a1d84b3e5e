import Birthright.Proofs.Collaborator.Disruption

/-!
# Histories of inquiries

What a run of an inquiry leaves behind is a history, the exchanges in their order, and a result.
Which histories lead to which results does not depend on the collaborators, so that a run is taken
apart along the inquiry: what is known of its parts is found again in the parts of its history.

* `Yields.of_bind` — a history of an inquiry that goes on has two parts
* `yields_run` — every run is one
* `Ensures.of_yields`, `resultWith_of_yields` — what is ensured, and what fixed answers come to
-/

namespace Birthright

namespace Inquiry

variable {α β σ : Type}

/-- With these exchanges the inquiry comes to this result. -/
inductive Yields : Inquiry α → List Exchange → α → Prop where
  | done (a : α) : Yields (.done a) [] a
  | note {e : Event} {next : Inquiry α} {t : List Exchange} {a : α} :
      Yields next t a → Yields (.note e next) t a
  | ask {c : Call} {next : c.Answer → Inquiry α} {answer : c.Answer} {t : List Exchange} {a : α} :
      Yields (next answer) t a → Yields (.ask c next) (⟨c, answer⟩ :: t) a

variable {x : Inquiry α} {t : List Exchange}

@[simp] theorem yields_pure {a b : α} : (pure a : Inquiry α).Yields t b ↔ t = [] ∧ b = a := by
  constructor
  · intro h
    cases h
    exact ⟨rfl, rfl⟩
  · rintro ⟨rfl, rfl⟩
    exact .done b

/-- **A history of an inquiry that goes on** is one of its beginning and then one of the rest. -/
theorem Yields.of_bind {f : α → Inquiry β} {b : β} (h : (x >>= f).Yields t b) :
    ∃ u a v, t = u ++ v ∧ x.Yields u a ∧ (f a).Yields v b := by
  replace h : (x.bind f).Yields t b := h
  induction x generalizing t with
  | done a => exact ⟨[], a, t, rfl, .done a, h⟩
  | note e next ih =>
    cases h with
    | note h =>
      obtain ⟨u, a, v, ht, hx, hf⟩ := ih h
      exact ⟨u, a, v, ht, .note hx, hf⟩
  | ask c next ih =>
    cases h with
    | @ask _ _ answer _ _ h =>
      obtain ⟨u, a, v, ht, hx, hf⟩ := ih answer h
      exact ⟨⟨c, answer⟩ :: u, a, v, by rw [ht, List.cons_append], .ask hx, hf⟩

/-- Histories of the parts are a history of the whole. -/
theorem Yields.bind {f : α → Inquiry β} {a : α} {b : β} {u : List Exchange} (hx : x.Yields t a)
    (hf : (f a).Yields u b) : (x >>= f).Yields (t ++ u) b := by
  show (x.bind f).Yields (t ++ u) b
  induction hx with
  | done a => exact hf
  | note _ ih => exact .note (ih hf)
  | ask _ ih => exact .ask (ih hf)

/-- **What comes back decides** how far an inquiry goes and what it comes to. -/
theorem Yields.determined {a a' : α} {t' u u' : List Exchange} (h : x.Yields t a)
    (h' : x.Yields t' a') (ht : t ++ u = t' ++ u') : t = t' ∧ a = a' := by
  induction h generalizing t' with
  | done a =>
    cases h'
    exact ⟨rfl, rfl⟩
  | note _ ih =>
    cases h' with
    | note h' => exact ih h' ht
  | ask _ ih =>
    cases h' with
    | ask h' =>
      obtain ⟨hexchange, hrest⟩ := List.cons.inj ht
      cases hexchange
      obtain ⟨rfl, ha⟩ := ih h' hrest
      exact ⟨rfl, ha⟩

/-- Where an inquiry begins with a call, so does its history. -/
theorem Yields.of_ask_bind {c : Call} {f : c.Answer → Inquiry α} {a : α}
    (h : (Inquiry.ask c pure >>= f).Yields t a) :
    ∃ answer u, t = ⟨c, answer⟩ :: u ∧ (f answer).Yields u a := by
  cases h with
  | ask h => exact ⟨_, _, rfl, h⟩

@[simp] theorem yields_notes_bind {es : List Event} {f : Unit → Inquiry α} {a : α} :
    (notes es >>= f).Yields t a ↔ (f ()).Yields t a := by
  induction es with
  | nil => exact Iff.rfl
  | cons e rest ih =>
    rw [← ih]
    constructor
    · intro h
      cases h with
      | note h => exact h
    · exact .note

@[simp] theorem yields_noted {r : List Event × α} {a : α} :
    (noted r).Yields t a ↔ t = [] ∧ a = r.2 := by
  rw [noted, yields_notes_bind, yields_pure]

@[simp] theorem yields_noted_bind {r : List Event × α} {f : α → Inquiry β} {b : β} :
    (noted r >>= f).Yields t b ↔ (f r.2).Yields t b := by
  obtain ⟨es, a⟩ := r
  induction es with
  | nil => exact Iff.rfl
  | cons e rest ih =>
    rw [← ih]
    constructor
    · intro h
      cases h with
      | note h => exact h
    · exact .note

/-- Every run has a history. -/
theorem yields_run (w : Collaborators σ) (x : Inquiry α) (s : σ) :
    x.Yields (x.exchanges w s) (x.run w s).result := by
  induction x generalizing s with
  | done a => exact .done a
  | note e next ih => exact .note (ih s)
  | ask c next ih => exact .ask (ih (w.answer c s).1 (w.answer c s).2.2)

/-- **What is ensured holds of every history.** -/
theorem Ensures.of_yields {must : List Exchange → Call → Prop} {ends : List Exchange → α → Prop}
    {past : List Exchange} {a : α} (h : x.Ensures must ends past) (hyields : x.Yields t a) :
    ends (past ++ t) a := by
  induction hyields generalizing past with
  | done a =>
    rw [List.append_nil]
    exact h
  | note _ ih => exact ih h
  | ask _ ih =>
    rw [List.append_cons]
    exact ih (h.2 _)

/-- **One history for each choice of answers**: it comes to what the answers come to. -/
theorem resultWith_of_yields {answers : (c : Call) → c.Answer} {a : α} (hyields : x.Yields t a)
    (h : ∀ e ∈ t, e.answer = answers e.call) : x.resultWith answers = a := by
  induction hyields with
  | done a => rfl
  | note _ ih => exact ih h
  | @ask c next answer _ _ _ ih =>
    have hanswer : answer = answers c := h ⟨c, answer⟩ List.mem_cons_self
    have hrest := ih fun e he => h e (List.mem_cons_of_mem _ he)
    rw [hanswer] at hrest
    exact hrest

end Inquiry

end Birthright
