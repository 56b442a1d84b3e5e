import Birthright.Proofs.Collaborator.Disruption
import Birthright.Proofs.Collaborator.Renaming

/-!
# Memories that differ by the numbers of persons

Two memories are alike under a renaming if the second says of the new number what the first says of
the old one: the forms cite it, the registry knows it, and the usage guard counts it. The ledger
keeps a count for each number, so that two numbers must not become one. Then the collaborators
answer alike, and their memories stay alike.

* `AlikeMemories` — alike memories
* `AlikeMemories.cited` — a citation is counted alike in both
* `simulates_failing` — collaborators of which any call may fail, if alike calls fail alike
-/

namespace Birthright

namespace Renaming

/-- The guards say the same of a number and of the one that stands in its place. -/
inductive AlikeGuards (ρ : Renaming) : UsageGuard → UsageGuard → Prop where
  | ledger {l l' : Ledger} (hlimit : l'.limit = l.limit)
      (hcount : ∀ n : Nin, n.Proper → l'.count (ρ n) = l.count n) :
      AlikeGuards ρ (.ledger l) (.ledger l')
  | listed {overused overused' : List Nin}
      (hmem : ∀ n : Nin, n.Proper → (ρ n ∈ overused' ↔ n ∈ overused)) :
      AlikeGuards ρ (.listed overused) (.listed overused')

/-- The memories are the same but for the numbers, and for the times of outcomes. -/
structure AlikeMemories (ρ : Renaming) (m m' : Memory) : Prop where
  forms : ∀ id, ρ.AlikeForms (m.fieldsOf id FormField.names) (m'.fieldsOf id FormField.names)
  registry : ∀ n : Nin, n.Proper → Table.get? m'.registry (ρ n) = Table.get? m.registry n
  usage : ρ.AlikeGuards m.usage m'.usage
  outcomes : ∀ id, Option.Rel Outcome.Alike (Table.get? m.outcomes id) (Table.get? m'.outcomes id)
  published : m'.published = m.published
  outages : ∀ kind, Outage.fault? m'.outages kind none = Outage.fault? m.outages kind none
  outagesAbout : ∀ kind (n : Nin), n.Proper →
    Outage.fault? m'.outages kind (some (ρ n)) = Outage.fault? m.outages kind (some n)
  notesEvents : m'.notesEvents = m.notesEvents

variable {ρ : Renaming} {m m' : Memory} {n : Nin}

theorem AlikeMemories.refl (m : Memory) : Renaming.refl.AlikeMemories m m where
  forms id := .refl (m.fieldsOf id FormField.names)
  registry _ _ := rfl
  usage := by
    cases m.usage with
    | ledger l => exact .ledger rfl fun _ _ => rfl
    | listed overused => exact .listed fun _ _ => Iff.rfl
  outcomes id := by
    cases Table.get? m.outcomes id with
    | none => exact .none
    | some o => exact .some rfl
  published := rfl
  outages _ := rfl
  outagesAbout _ _ _ := rfl
  notesEvents := rfl

/-! ## The usage guard -/

theorem AlikeMemories.isOverused (h : ρ.AlikeMemories m m') (hn : n.Proper) :
    m'.isOverused (ρ n) = m.isOverused n := by
  have husage := h.usage
  unfold Memory.isOverused
  generalize m.usage = guard at husage ⊢
  generalize m'.usage = guard' at husage ⊢
  cases husage with
  | ledger hlimit hcount =>
    show decide (_ < _) = decide (_ < _)
    rw [hlimit, hcount n hn]
  | listed hmem => exact decide_eq_decide.mpr (hmem n hn)

/-- One more citation is counted for the number, and for no other that keeps its own name. -/
theorem count_cite_renamed {l l' : Ledger} (hcount : ∀ n : Nin, n.Proper → l'.count (ρ n) = l.count n)
    (hn : n.Proper) {k : Nin} (hk : k.Proper) : (l'.cite (ρ n)).count (ρ k) = (l.cite n).count k := by
  rw [Ledger.count_cite, Ledger.count_cite, hcount n hn, hcount k hk]
  by_cases hsame : n = k
  · rw [if_pos hsame, if_pos (congrArg ρ hsame)]
  · rw [if_neg hsame, if_neg fun h => hsame (ρ.injective n k hn hk h)]

/-- **A citation is counted alike**, and what is noted about it is the same. -/
theorem AlikeMemories.cited (h : ρ.AlikeMemories m m') (hn : n.Proper) (role : String) :
    (m.cite n role).1 = (m'.cite (ρ n) role).1 ∧
      ρ.AlikeMemories (m.cite n role).2 (m'.cite (ρ n) role).2 := by
  obtain ⟨packets, registry, guard, outcomes, published, outages, notes⟩ := m
  obtain ⟨packets', registry', guard', outcomes', published', outages', notes'⟩ := m'
  obtain ⟨hforms, hregistry, husage, houtcomes, hpublished, houtages, hoAbout, hnotes⟩ := h
  cases husage with
  | @ledger l l' hlimit hcount =>
    refine ⟨?_, hforms, hregistry, .ledger hlimit ?_, houtcomes, hpublished, houtages, hoAbout,
      hnotes⟩
    · show [l.citedEvent n role] = [l'.citedEvent (ρ n) role]
      rw [Ledger.citedEvent, Ledger.citedEvent, ρ.masked hn, count_cite_renamed hcount hn hn]
    · exact fun k hk => count_cite_renamed hcount hn hk
  | listed hmem =>
    exact ⟨rfl, hforms, hregistry, .listed hmem, houtcomes, hpublished, houtages, hoAbout, hnotes⟩

/-! ## Calls -/

/-- The same is noted about an event. -/
theorem AlikeMemories.notices (h : ρ.AlikeMemories m m') (e : AuditEvent) :
    m.notices e = m'.notices e := by
  rw [Memory.notices, Memory.notices, h.notesEvents]

/-- An outcome is stored alike. -/
theorem AlikeMemories.stored (h : ρ.AlikeMemories m m') {o o' : Outcome} (ho : o.Alike o') :
    ρ.AlikeMemories { m with outcomes := Table.insert m.outcomes o.registrationId o }
      { m' with outcomes := Table.insert m'.outcomes o'.registrationId o' } := by
  refine { h with outcomes := fun id => ?_ }
  show Option.Rel Outcome.Alike (Table.get? (Table.insert m.outcomes o.registrationId o) id)
    (Table.get? (Table.insert m'.outcomes o'.registrationId o') id)
  rw [Table.get?_insert, Table.get?_insert, ← ho.registrationId]
  split
  · exact .some ho
  · exact h.outcomes id

/-- **Alike calls are answered alike**, and the memories stay alike. -/
theorem AlikeMemories.answered (h : ρ.AlikeMemories m m') {c c' : Call}
    (hcall : ρ.AlikeCalls c c') :
    ρ.AlikeExchanges ⟨c, (m.answer c).1⟩ ⟨c', (m'.answer c').1⟩ ∧
      (m.answer c).2.1 = (m'.answer c').2.1 ∧
      ρ.AlikeMemories (m.answer c).2.2 (m'.answer c').2.2 := by
  -- Every call looks for an outage first, and is answered alike if there is none.
  cases hcall with
  | fields id =>
    unfold Memory.answer
    dsimp only
    rw [h.outages .fields]
    cases Outage.fault? m.outages .fields none with
    | some f => exact ⟨.noForm id _, rfl, h⟩
    | none => exact ⟨.form id (h.forms id), rfl, h⟩
  | @document n hn =>
    unfold Memory.answer
    dsimp only
    rw [h.outagesAbout .document n hn, h.registry n hn]
    cases Outage.fault? m.outages .document (some n) with
    | some f => exact ⟨.document hn _, rfl, h⟩
    | none => exact ⟨.document hn _, rfl, h⟩
  | @isOverused n hn role =>
    unfold Memory.answer
    dsimp only
    rw [h.outagesAbout .isOverused n hn, h.isOverused hn]
    cases Outage.fault? m.outages .isOverused (some n) with
    | some f => exact ⟨.isOverused hn role _, rfl, h⟩
    | none => exact ⟨.isOverused hn role _, rfl, h⟩
  | @cite n hn role =>
    unfold Memory.answer
    dsimp only
    rw [h.outagesAbout .cite n hn]
    cases Outage.fault? m.outages .cite (some n) with
    | some f => exact ⟨.cite hn role _, rfl, h⟩
    | none => exact ⟨.cite hn role _, h.cited hn role⟩
  | fetch id =>
    unfold Memory.answer
    dsimp only
    rw [h.outages .fetch]
    cases Outage.fault? m.outages .fetch none with
    | some f => exact ⟨.notFetched id _, rfl, h⟩
    | none => exact ⟨.fetch id (h.outcomes id), rfl, h⟩
  | store ho =>
    unfold Memory.answer
    dsimp only
    rw [h.outages .store]
    cases Outage.fault? m.outages .store none with
    | some f => exact ⟨.store ho _, rfl, h⟩
    | none => exact ⟨.store ho _, rfl, h.stored ho⟩
  | publish e =>
    unfold Memory.answer
    dsimp only
    rw [h.outages .publish, ← h.notices e]
    cases Outage.fault? m.outages .publish none with
    | some f => exact ⟨.publish e _, rfl, h⟩
    | none => exact ⟨.publish e _, rfl, { h with published := congrArg (· ++ [e]) h.published }⟩

/-- **Collaborators with alike memories** answer alike calls alike. -/
theorem simulates_collaborators (ρ : Renaming) :
    ρ.Simulates Memory.collaborators Memory.collaborators ρ.AlikeMemories where
  answers _ _ _ _ hcall hm := (hm.answered hcall).1
  events _ _ _ _ hcall hm := (hm.answered hcall).2.1
  states _ _ _ _ hcall hm := (hm.answered hcall).2.2

/-- Alike calls that fail alike. -/
theorem alikeExchanges_failed {c c' : Call} (hcall : ρ.AlikeCalls c c') (f : Fault) :
    ρ.AlikeExchanges ⟨c, c.failed f⟩ ⟨c', c'.failed f⟩ := by
  cases hcall with
  | fields id => exact .noForm id _
  | document hn => exact .document hn _
  | isOverused hn role => exact .isOverused hn role _
  | cite hn role => exact .cite hn role _
  | fetch id => exact .notFetched id _
  | store ho => exact .store ho _
  | publish e => exact .publish e _

/-- The same number of calls was made, and the memories are alike. -/
def AlikeStates (ρ : Renaming) (s s' : Memory × Nat) : Prop :=
  ρ.AlikeMemories s.1 s'.1 ∧ s'.2 = s.2

/-- So do collaborators of which any call may fail, if they fail alike. -/
theorem simulates_failing {plan plan' : Nat → Call → Option Fault}
    (hplan : ∀ k c c', ρ.AlikeCalls c c' → plan' k c' = plan k c) :
    ρ.Simulates (Memory.failing plan) (Memory.failing plan') ρ.AlikeStates := by
  have hanswered (c c' : Call) (s s' : Memory × Nat) (hcall : ρ.AlikeCalls c c')
      (hs : ρ.AlikeStates s s') :
      ρ.AlikeExchanges ⟨c, ((Memory.failing plan).answer c s).1⟩
          ⟨c', ((Memory.failing plan').answer c' s').1⟩ ∧
        ((Memory.failing plan).answer c s).2.1 = ((Memory.failing plan').answer c' s').2.1 ∧
        ρ.AlikeStates ((Memory.failing plan).answer c s).2.2
          ((Memory.failing plan').answer c' s').2.2 := by
    obtain ⟨m, k⟩ := s
    obtain ⟨m', _⟩ := s'
    obtain ⟨hm, hk⟩ := hs
    cases hk
    simp only [Memory.failing]
    rw [hplan k c c' hcall]
    cases plan k c with
    | some f => exact ⟨alikeExchanges_failed hcall f, rfl, hm, rfl⟩
    | none =>
      obtain ⟨hexchange, hevents, hmemories⟩ := hm.answered hcall
      exact ⟨hexchange, hevents, hmemories, rfl⟩
  exact ⟨fun c c' s s' hcall hs => (hanswered c c' s s' hcall hs).1,
    fun c c' s s' hcall hs => (hanswered c c' s s' hcall hs).2.1,
    fun c c' s s' hcall hs => (hanswered c c' s s' hcall hs).2.2⟩

end Renaming

end Birthright
