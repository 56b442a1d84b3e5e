import Birthright.Proofs.Verification.Recount
import Birthright.Proofs.Verification.UnderWay

/-!
# Registrations at the same time

Calls for different registrations may come in any order. To check a number and to cite it are two
calls, so that other registrations may be cleared in between: more of them pass than the usage limit
has room for. How many more depends on how many wait at once between check and citation.

* `card_passedBy_turns_le` — the bound for every order of calls
* `card_passedBy_exceeds_limit` — the limit and one more is no bound
-/

namespace Birthright

namespace Pool

/-- The case with an index makes its next call; it does nothing when it is over. -/
def turn (p : Pool) (i : Nat) : Pool :=
  match p.cases[i]? with
  | none => p
  | some c =>
    match c.rest.next? with
    | none => p
    | some ⟨call, next⟩ =>
      let (answer, _, m) := p.memory.answer call
      ⟨p.cases.set i ⟨c.id, next answer, c.past ++ [⟨call, answer⟩]⟩, m⟩

/-- The cases make their calls in the order of a schedule. -/
def turns (p : Pool) (schedule : List Nat) : Pool := schedule.foldl turn p

theorem turn_eq_or_step (p : Pool) (i : Nat) : p.turn i = p ∨ Step p (p.turn i) := by
  obtain ⟨cases, m⟩ := p
  unfold turn
  dsimp only
  split
  · exact .inl rfl
  · next c hc =>
    split
    · exact .inl rfl
    · next call next hnext =>
      obtain ⟨hi, hget⟩ := List.getElem?_eq_some_iff.mp hc
      have hsplit : cases = cases.take i ++ c :: cases.drop (i + 1) := by
        rw [← hget, ← List.drop_eq_getElem_cons hi, List.take_append_drop]
      obtain ⟨hallows, hafter⟩ := m.answer_allowed call
      have hstep := Step.call (cases.take i) (cases.drop (i + 1)) c m ⟨call, (m.answer call).1⟩
        next hnext hallows
      rw [← hsplit, ← hafter] at hstep
      rw [List.set_eq_take_append_cons_drop, if_pos hi]
      exact .inr hstep

/-- Never more cases wait than there are. -/
theorem pendingOn_turns_le (n : Nin) (p : Pool) (schedule : List Nat) :
    (p.turns schedule).pendingOn n ≤ p.cases.length := by
  induction schedule generalizing p with
  | nil => exact List.countP_le_length
  | cons i rest ih =>
    have hlength : (p.turn i).cases.length = p.cases.length := by
      unfold turn
      split
      · rfl
      · split
        · rfl
        · exact List.length_set
    rw [← hlength]
    exact ih (p.turn i)

/-- **The turns of a schedule** are a course of steps. -/
theorem steps_of_turns {n : Nin} {k : Nat} {p : Pool} {schedule : List Nat}
    (hwaiting : ∀ u, u <+: schedule → (p.turns u).pendingOn n ≤ k) :
    Relation.ReflTransGen (fun p p' => Step p p' ∧ p'.pendingOn n ≤ k) p (p.turns schedule) := by
  induction schedule generalizing p with
  | nil => exact .refl
  | cons i rest ih =>
    have hrest := ih (p := p.turn i) fun u hu => hwaiting (i :: u) ((List.prefix_cons_inj i).mpr hu)
    rcases p.turn_eq_or_step i with hsame | hstep
    · rw [hsame] at hrest
      rw [turns, List.foldl_cons, hsame]
      exact hrest
    · exact hrest.head ⟨hstep, hwaiting [i] (by simp)⟩

end Pool

/--
**The usage limit for registrations at the same time**: whatever the order of the calls, no more
registrations pass on the strength of a number than the limit has room for, with as many more as
wait at once between the check of the number and its citation.
-/
theorem card_passedBy_turns_le (r : Rules) (requests : List Request) (m : Memory) (l : Ledger)
    (n : Nin) (k : Nat) (schedule : List Nat) (hl : m.usage = .ledger l)
    (hmax : l.limit.toNat < UInt32.size - 1)
    (hwaiting : ∀ u, u <+: schedule → ((Pool.start r requests m).turns u).pendingOn n ≤ k) :
    (((Pool.start r requests m).turns schedule).passedBy m n).card ≤ l.room n k :=
  Pool.card_passed_le hl hmax (Pool.steps_of_turns hwaiting)

/-- The check of both cases before the citation of either. -/
def bothChecked : List Nat := [0, 0, 1, 1, 0, 0, 0, 0, 1, 1, 1, 1]

theorem card_passedBy_cousins :
    (((Pool.start .standard [requestFor "A", requestFor "B"] (cousins ["A", "B"] 0)).turns
      bothChecked).passedBy (cousins ["A", "B"] 0) ⟨"G"⟩).card = 2 :=
  le_antisymm
    (card_passedBy_turns_le .standard [requestFor "A", requestFor "B"] (cousins ["A", "B"] 0) ⟨0, []⟩
      ⟨"G"⟩ 2 bothChecked rfl (by decide)
      fun u _ => Pool.pendingOn_turns_le ⟨"G"⟩ _ u)
    (by decide +kernel)

/-- **The limit and one more is no bound** for registrations at the same time. -/
theorem card_passedBy_exceeds_limit :
    ¬∀ (packets : Table RegistrationId (Table String String)) (registry : Table Nin Document)
      (l : Ledger) (r : Rules) (requests : List Request) (n : Nin) (schedule : List Nat),
      l.limit.toNat < UInt32.size - 1 → (requests.map Request.id).Nodup →
      (((Pool.start r requests (Memory.fresh packets registry (.ledger l))).turns schedule).passedBy
        (Memory.fresh packets registry (.ledger l)) n).card
          ≤ l.limit.toNat + 1 - (l.count n).toNat := by
  intro h
  -- Both numbers are cleared while the count is zero, and then both citations are counted.
  have hbound := h [(⟨"A"⟩, cousinForm), (⟨"B"⟩, cousinForm)] [] ⟨0, []⟩ .standard
    [requestFor "A", requestFor "B"] ⟨"G"⟩ bothChecked (by decide) (by decide +kernel)
  revert hbound
  decide +kernel

end Birthright
