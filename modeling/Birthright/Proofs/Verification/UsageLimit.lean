import Birthright.Proofs.Verification.Recount
import Birthright.Proofs.Verification.UnderWay

/-!
# How many registrations one number can vouch for

Registrations that are processed one after the other are a pool in which one case makes all its
calls before the next one begins. No more than one of them waits between a check and the citation,
so that the bound is the limit and one more, whatever fails.

* `steps_of_serve` — registrations one after the other are a course of steps
* `card_vouchedFor_le` — the usage limit
-/

namespace Birthright

/-- A registration was stored as one that passes, on the strength of the number. -/
def Handling.passedBy (n : Nin) (h : Handling) : Bool :=
  vouching? h.exchanges = some n && (h.exchanges.filterMap Exchange.stored?).any Outcome.isValid

/-- The registrations that were stored as passing on the strength of a number. -/
def vouchedFor (n : Nin) (hs : List Handling) : Finset RegistrationId :=
  ((hs.filter (Handling.passedBy n)).map Handling.id).toFinset

theorem mem_vouchedFor {n : Nin} {hs : List Handling} {id : RegistrationId} :
    id ∈ vouchedFor n hs ↔ ∃ h ∈ hs, h.passedBy n = true ∧ h.id = id := by
  simp [vouchedFor, and_assoc]

/-- What was done for a case. -/
def Case.handling (c : Case) : Handling := ⟨c.id, c.past⟩

namespace Pool

variable {n : Nin} {r : Rules}

/-- A step after which no more than one case waits between check and citation. -/
def StepAlone (n : Nin) (p p' : Pool) : Prop := Step p p' ∧ p'.pendingOn n ≤ 1

theorem pendingOn_le_one {before after : List Case} {c : Case} {m : Memory}
    (hbefore : before.countP (Case.isPendingOn n) = 0)
    (hafter : after.countP (Case.isPendingOn n) = 0) :
    pendingOn n ⟨before ++ c :: after, m⟩ ≤ 1 := by
  rw [pendingOn, List.countP_append, List.countP_cons, hbefore, hafter]
  split <;> omega

/-- **The run of one case** is a course of steps. -/
theorem steps_of_run (plan : Nat → Call → Option Fault) {before after : List Case}
    (hbefore : before.countP (Case.isPendingOn n) = 0)
    (hafter : after.countP (Case.isPendingOn n) = 0) (id : RegistrationId)
    (x rest : Inquiry (Except ServiceFailure Outcome)) (hrest : rest.next? = x.next?)
    (past : List Exchange) (m : Memory) (k : Nat) :
    ∃ last, last.next? = none ∧ Relation.ReflTransGen (StepAlone n)
      ⟨before ++ ⟨id, rest, past⟩ :: after, m⟩
      ⟨before ++ ⟨id, last, past ++ x.exchanges (Memory.failing plan) (m, k)⟩ :: after,
        (x.run (Memory.failing plan) (m, k)).state.1⟩ := by
  -- `rest` may differ from `x` by notes, which are no steps.
  induction x generalizing rest past m k with
  | done a =>
    rw [Inquiry.exchanges, List.append_nil]
    exact ⟨rest, hrest, .refl⟩
  | note _ next ih => exact ih rest hrest past m k
  | ask c next ih =>
    obtain ⟨hallows, hstate⟩ := failing_answer plan c m k
    obtain ⟨last, hlast, hsteps⟩ := ih ((Memory.failing plan).answer c (m, k)).1 _ rfl
      (past ++ [⟨c, ((Memory.failing plan).answer c (m, k)).1⟩])
      (m.after ⟨c, ((Memory.failing plan).answer c (m, k)).1⟩) (k + 1)
    have hstep := Step.call before after ⟨id, rest, past⟩ m
      ⟨c, ((Memory.failing plan).answer c (m, k)).1⟩ next hrest hallows
    refine ⟨last, hlast, ?_⟩
    simp only [Inquiry.exchanges, Inquiry.run, Run.after, hstate]
    rw [List.append_cons past]
    exact hsteps.head ⟨hstep, pendingOn_le_one hbefore hafter⟩

theorem countP_pending_of_over {cases : List Case} (h : ∀ c ∈ cases, c.isOver = true) :
    cases.countP (Case.isPendingOn n) = 0 := by
  refine List.countP_eq_zero.mpr fun c hc => ?_
  simp [Case.isPendingOn, h c hc]

theorem countP_pending_start (requests : List Request) :
    (requests.map (Case.start r)).countP (Case.isPendingOn n) = 0 := by
  rw [List.countP_map]
  refine List.countP_eq_zero.mpr fun q _ => ?_
  simp [Case.isPendingOn, Case.isVouchedBy, Case.start, vouching?]

/-- **Registrations one after the other** are a course of steps. -/
theorem steps_of_serve (plan : Nat → Call → Option Fault) {ended : List Case}
    (hended : ∀ c ∈ ended, c.isOver = true) (requests : List Request) (m : Memory) (k : Nat) :
    ∃ done m', done.map Case.handling = serve (Memory.failing plan) r requests (m, k) ∧
      Relation.ReflTransGen (StepAlone n) ⟨ended ++ requests.map (Case.start r), m⟩
        ⟨ended ++ done, m'⟩ := by
  induction requests generalizing ended m k with
  | nil => exact ⟨[], m, rfl, .refl⟩
  | cons q rest ih =>
    obtain ⟨last, hlast, hsteps⟩ := steps_of_run plan (countP_pending_of_over hended)
      (countP_pending_start (r := r) (n := n) rest) q.id (process r q.now q.id) _ rfl [] m k
    rw [serve]
    generalize (process r q.now q.id).exchanges (Memory.failing plan) (m, k) = t at hsteps ⊢
    generalize ((process r q.now q.id).run (Memory.failing plan) (m, k)).state = s at hsteps ⊢
    have hended' : ∀ c ∈ ended ++ [⟨q.id, last, t⟩], c.isOver = true := by
      intro c hc
      rcases List.mem_append.mp hc with hbefore | hnow
      · exact hended c hbefore
      · rw [List.mem_singleton.mp hnow, Case.isOver, hlast]
        rfl
    obtain ⟨done, m', hdone, hrest⟩ := ih hended' s.1 s.2
    refine ⟨⟨q.id, last, t⟩ :: done, m', by rw [List.map_cons, hdone]; rfl, ?_⟩
    rw [List.append_assoc, List.append_assoc] at hrest
    exact hsteps.trans hrest

end Pool

/--
**The usage limit**: of the registrations that are processed one after the other, no more are stored
as passing on the strength of a number than the limit still has room for and one, and none if the
number was cited more often than the limit before. Any call may fail.
-/
theorem card_vouchedFor_le (plan : Nat → Call → Option Fault) (r : Rules) (m : Memory) (l : Ledger)
    (n : Nin) (requests : List Request) (hl : m.usage = .ledger l)
    (hmax : l.limit.toNat < UInt32.size - 1) (hempty : m.outcomes = []) :
    (vouchedFor n (serve (Memory.failing plan) r requests (m, 0))).card
      ≤ l.limit.toNat + 1 - (l.count n).toNat := by
  have hnone : ∀ c ∈ ([] : List Case), c.isOver = true := fun c hc => nomatch hc
  obtain ⟨done, m', hdone, hsteps⟩ := Pool.steps_of_serve (n := n) (r := r) plan hnone requests m 0
  refine le_trans (Finset.card_le_card fun id hid => ?_)
    ((Pool.card_passed_le hl hmax hsteps).trans ?_)
  · obtain ⟨h, hh, hpassed, rfl⟩ := mem_vouchedFor.mp hid
    rw [← hdone] at hh
    obtain ⟨c, hc, rfl⟩ := List.mem_map.mp hh
    refine Pool.mem_ids.mpr ⟨c, hc, ?_, rfl⟩
    have hnew : m.hasPassed c.id = false := by rw [Memory.hasPassed, hempty]; rfl
    rw [hnew]
    exact hpassed
  · -- With one case waiting the room is the limit and one more.
    unfold Ledger.room
    split <;> omega

/-- The first two of three registrations that cite the same first cousin pass, as the limit is one. -/
theorem card_vouchedFor_cousins :
    (vouchedFor ⟨"G"⟩ (serve (Memory.failing fun _ _ => none) .standard
      [requestFor "A", requestFor "B", requestFor "C"] (cousins ["A", "B", "C"] 1, 0))).card = 2 :=
  le_antisymm
    (card_vouchedFor_le (fun _ _ => none) .standard (cousins ["A", "B", "C"] 1) ⟨1, []⟩ ⟨"G"⟩
      [requestFor "A", requestFor "B", requestFor "C"] rfl (by decide) rfl)
    (by decide +kernel)

end Birthright
