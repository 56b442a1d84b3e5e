import Mathlib.Logic.Equiv.Basic
import Birthright.Proofs.Collaborator.RenamedMemory
import Birthright.Proofs.Eligibility.Masking
import Birthright.Proofs.Verification.Recount

/-!
# Numbers of persons do not leak

Of the number of a person no more is shown than its last four characters. Take two runs between
which the numbers differ, but not their endings, and in which the collaborators say of each number
the same as of the one in its place: then all that is given back, noted, stored and made known is
the same in both, but for the times.

* `process_alike` — the processing of a registration
* `numbers_hidden` — evaluations, and any number of registrations that are processed
-/

namespace Birthright

open Calendar (Instant)

variable {ρ : Renaming} {r : Rules}

/-- The results are the same but for the times. -/
inductive AlikeResults : Except ServiceFailure Outcome → Except ServiceFailure Outcome → Prop where
  | failed (e : ServiceFailure) : AlikeResults (.error e) (.error e)
  | processed {o o' : Outcome} (ho : o.Alike o') : AlikeResults (.ok o) (.ok o')

/-- Processes registrations one after the other. -/
def processAll (r : Rules) : List Request → Inquiry (List (Except ServiceFailure Outcome))
  | [] => return []
  | q :: rest => do
    let result ← process r q.now q.id
    let results ← processAll r rest
    return result :: results

/-! ## The parts of the processing -/

namespace Outcome

theorem alike_ofVerdict (id : RegistrationId) (v : Verdict) (now now' : Instant) :
    (ofVerdict id v now).Alike (ofVerdict id v now') := rfl

theorem alike_ofFailure (id : RegistrationId) (message : String) (now now' : Instant) :
    (ofFailure id message now).Alike (ofFailure id message now') := rfl

end Outcome

namespace Outcome.Alike

variable {o o' : Outcome}

theorem isValid_eq (h : o.Alike o') : o.isValid = o'.isValid := by
  rw [h]
  rfl

/-- The event about an outcome does not say when it was processed. -/
theorem event_eq (h : o.Alike o') : AuditEvent.ofOutcome o = .ofOutcome o' := by
  rw [h]
  rfl

end Outcome.Alike

theorem hasPassed_of_alike {found found' : Option Outcome}
    (h : Option.Rel Outcome.Alike found found') :
    found.any Outcome.isValid = found'.any Outcome.isValid := by
  cases h with
  | none => rfl
  | some ho => exact ho.isValid_eq

theorem citeAll_alike {a : Applicant} {cs : List (Nin × String)} (hcs : ∀ c ∈ cs, c.1.Proper) :
    (citeAll a cs).Alike ρ Eq (citeAll (a.rename ρ) (cs.map fun c => (ρ c.1, c.2))) := by
  induction cs with
  | nil => exact .pure rfl
  | cons c others ih =>
    obtain ⟨n, role⟩ := c
    have hn : n.Proper := hcs _ List.mem_cons_self
    simp only [List.map_cons, citeAll]
    refine .cite hn fun answer => ?_
    cases answer with
    | error e => exact .pure rfl
    | ok _ =>
      dsimp only
      rw [ρ.masked hn]
      exact .notes_bind (ih fun c hc => hcs c (List.mem_cons_of_mem _ hc))

theorem countCitations_alike {a : Applicant} (ha : a.Proper) (v : Verdict) :
    (countCitations a v).Alike ρ Eq (countCitations (a.rename ρ) v) := by
  unfold countCitations
  split
  · refine .fetch (fun e => .pure rfl) fun found found' hfound => ?_
    dsimp only
    rw [hasPassed_of_alike hfound]
    split
    · exact .pure rfl
    · rw [Applicant.citations_rename]
      exact citeAll_alike ha.citations
  · exact .pure rfl

theorem conclude_alike {o o' : Outcome} (ho : o.Alike o') :
    (conclude o).Alike ρ Eq (conclude o') := by
  unfold conclude
  refine .store ho fun answer => ?_
  cases answer with
  | error e => exact .pure rfl
  | ok _ =>
    dsimp only
    rw [ho.event_eq]
    refine .publish fun answer => ?_
    cases answer with
    | error e => exact .pure rfl
    | ok _ => exact .pure rfl

/-- **The processing of a registration** does not depend on the numbers themselves. -/
theorem process_alike (r : Rules) (now now' : Instant) (id : RegistrationId) :
    (process r now id).Alike ρ AlikeResults (process r now' id) := by
  refine (assess_alike r id).bind ?_
  rintro x x' (⟨e⟩ | ⟨ha, v⟩)
  · refine .notes_bind ((conclude_alike (Outcome.alike_ofFailure id e.message now now')).bind ?_)
    rintro y _ rfl
    cases y with
    | error e' => exact .pure (.failed e')
    | ok _ => exact .pure (.failed (.evaluation e))
  · refine (countCitations_alike ha v).bind ?_
    rintro y _ rfl
    cases y with
    | error e => exact .pure (.failed e)
    | ok _ =>
      refine (conclude_alike (Outcome.alike_ofVerdict id v now now')).bind ?_
      rintro z _ rfl
      cases z with
      | error e => exact .pure (.failed e)
      | ok _ => exact .notes_bind (.pure (.processed (Outcome.alike_ofVerdict id v now now')))

/-- So it is with any number of registrations, whenever they are processed. -/
theorem processAll_alike (r : Rules) {requests requests' : List Request}
    (hids : requests.map Request.id = requests'.map Request.id) :
    (processAll r requests).Alike ρ (List.Forall₂ AlikeResults) (processAll r requests') := by
  induction requests generalizing requests' with
  | nil =>
    obtain rfl := List.map_eq_nil_iff.mp hids.symm
    exact .pure .nil
  | cons q rest ih =>
    obtain ⟨q', rest', rfl, hq, hrest⟩ := List.map_eq_cons_iff.mp hids.symm
    unfold processAll
    rw [hq]
    refine (process_alike r q.now q'.now q.id).bind fun x x' hx => ?_
    refine (ih hrest.symm).bind fun xs xs' hxs => ?_
    exact .pure (.cons hx hxs)

/-! ## Runs -/

/--
In the two states the same is given back and noted, alike calls are made, and the states stay
related: in evaluations, and in the processing of registrations at any times.
-/
structure Indistinguishable {σ σ' : Type} (ρ : Renaming) (r : Rules) (w : Collaborators σ)
    (w' : Collaborators σ') (R : σ → σ' → Prop) (s : σ) (s' : σ') : Prop where
  evaluated : ∀ id, ((evaluate r id).run w s).Alike ρ Eq R ((evaluate r id).run w' s')
  processed : ∀ requests requests' : List Request,
    requests.map Request.id = requests'.map Request.id →
    ((processAll r requests).run w s).Alike ρ (List.Forall₂ AlikeResults) R
      ((processAll r requests').run w' s')

/--
**Numbers do not leak** beyond their last four characters: with any collaborators that answer for a
number as for the one in its place, and so with those in memory if their forms, registries, guards
and outages say of a number the same as of the one in its place.
-/
theorem numbers_hidden (ρ : Renaming) (r : Rules) :
    (∀ (σ σ' : Type) (w : Collaborators σ) (w' : Collaborators σ') (R : σ → σ' → Prop),
      ρ.Simulates w w' R → ∀ s s', R s s' → Indistinguishable ρ r w w' R s s') ∧
    ∀ (plan plan' : Nat → Call → Option Fault) (m m' : Memory) (k : Nat),
      (∀ k c c', ρ.AlikeCalls c c' → plan' k c' = plan k c) → ρ.AlikeMemories m m' →
      Indistinguishable ρ r (Memory.failing plan) (Memory.failing plan') ρ.AlikeStates (m, k)
        (m', k) := by
  have hgeneral (σ σ' : Type) (w : Collaborators σ) (w' : Collaborators σ') (R : σ → σ' → Prop)
      (hsim : ρ.Simulates w w' R) (s : σ) (s' : σ') (hs : R s s') :
      Indistinguishable ρ r w w' R s s' :=
    ⟨fun id => (evaluate_alike r id).run hsim hs,
      fun _ _ hids => (processAll_alike r hids).run hsim hs⟩
  refine ⟨hgeneral, fun plan plan' m m' k hplan hm => ?_⟩
  exact hgeneral _ _ _ _ _ (Renaming.simulates_failing hplan) _ _ ⟨hm, rfl⟩

/-! ## Two numbers with the same ending -/

/-- Two proper numbers with the same ending change places. -/
def Renaming.swap (m n : Nin) (hm : m.Proper) (hn : n.Proper) (h : m.ending = n.ending) :
    Renaming where
  number := Equiv.swap m n
  proper k hk := by
    rw [Equiv.swap_apply_def]
    split
    · exact hn
    · split
      · exact hm
      · exact hk
  injective _ _ _ _ heq := (Equiv.swap m n).injective heq
  ending k hk := by
    rw [Equiv.swap_apply_def]
    split
    · next hkm => rw [hkm, h]
    · split
      · next hkn => rw [hkn, h]
      · rfl

/-- A memory of one registration that cites a first cousin with this number. -/
def cousinWith (number : String) : Memory :=
  .fresh [(⟨"A"⟩, Table.insert cousinForm "guardianNIN" number)] [] (.ledger ⟨5, []⟩)

/-- The cousins "CM12ABCD" and "CF89ABCD" change places. -/
def swapCousins : Renaming :=
  .swap ⟨"CM12ABCD"⟩ ⟨"CF89ABCD"⟩ (by decide +kernel) (by decide +kernel)
    (by decide +kernel)

theorem alikeMemories_cousinWith :
    swapCousins.AlikeMemories (cousinWith "CM12ABCD") (cousinWith "CF89ABCD") where
  forms id := by
    by_cases hid : id = ⟨"A"⟩
    · subst hid
      constructor
      · intro f
        cases f <;> decide +kernel
      · intro f
        cases f <;> decide +kernel
    · -- Other registrations have no form.
      have hnone (number : String) : (cousinWith number).fieldsOf id FormField.names = [] := by
        simp [Memory.fieldsOf, cousinWith, Memory.fresh, Table.get?, Ne.symm hid]
      rw [hnone, hnone]
      exact ⟨fun _ _ => rfl, fun _ _ => rfl⟩
  registry n _ := rfl
  usage := .ledger rfl fun n _ => rfl
  outcomes id := .none
  published := rfl
  outages kind := rfl
  outagesAbout kind n _ := rfl
  notesEvents := rfl

/-- The registration is processed that cites a first cousin with this number. -/
def cousinRun (number : String) : Run (Memory × Nat) (List (Except ServiceFailure Outcome)) :=
  (processAll .standard [requestFor "A"]).run (Memory.failing fun _ _ => none)
    (cousinWith number, 0)

theorem numbers_hidden_of_cousins :
    (cousinRun "CM12ABCD").calls ≠ (cousinRun "CF89ABCD").calls ∧
      List.Forall₂ AlikeResults (cousinRun "CM12ABCD").result (cousinRun "CF89ABCD").result ∧
      (cousinRun "CM12ABCD").events = (cousinRun "CF89ABCD").events ∧
      (cousinRun "CF89ABCD").state.1.published = (cousinRun "CM12ABCD").state.1.published ∧
      (cousinRun "CM12ABCD").state.1.published.map AuditEvent.moduleId = ["SUCCESS"] := by
  have hhidden := (numbers_hidden swapCousins .standard).2 (fun _ _ => none) (fun _ _ => none)
    (cousinWith "CM12ABCD") (cousinWith "CF89ABCD") 0 (fun _ _ _ _ => rfl) alikeMemories_cousinWith
  obtain ⟨hresult, hevents, -, hstate⟩ := hhidden.processed [requestFor "A"] [requestFor "A"] rfl
  exact ⟨by decide +kernel, hresult, hevents, hstate.1.published, by decide +kernel⟩

end Birthright
