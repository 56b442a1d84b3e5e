import Birthright.Collaborator.Ledger

/-!
# Citations in the ledger

A list of citations counts each number as often as it stands in the list, up to the greatest count.
Counts never fall, so that a number that was overused stays so.

* `count_charge` — the counts after a list of citations
* `isOverused_charge` — who was overused stays overused
-/

namespace Birthright

namespace Ledger

theorem toNat_oneMore (k : UInt32) :
    (oneMore k).toNat = min (UInt32.size - 1) (k.toNat + 1) := by
  unfold oneMore
  split
  · next h =>
    rw [UInt32.toNat_add, UInt32.toNat_one, Nat.mod_eq_of_lt h]
    omega
  · next h =>
    have hlt := k.toNat_lt_size
    omega

/-- Counts citations one after the other. -/
def charge (l : Ledger) (cs : List (Nin × String)) : Ledger :=
  cs.foldl (fun l c => l.cite c.1) l

@[simp] theorem charge_nil (l : Ledger) : l.charge [] = l := rfl

theorem charge_cons (l : Ledger) (c : Nin × String) (cs : List (Nin × String)) :
    l.charge (c :: cs) = (l.cite c.1).charge cs := rfl

/-- **A list of citations counts** each number as often as the list names it. -/
theorem count_charge (l : Ledger) (cs : List (Nin × String)) (n : Nin) :
    ((l.charge cs).count n).toNat
      = min (UInt32.size - 1) ((l.count n).toNat + (cs.map Prod.fst).count n) := by
  induction cs generalizing l with
  | nil =>
    have hlt := (l.count n).toNat_lt_size
    simp only [charge_nil, List.map_nil, List.count_nil]
    omega
  | cons c cs ih =>
    rw [charge_cons, ih, count_cite, List.map_cons, List.count_cons]
    by_cases hn : c.1 = n
    · rw [if_pos hn, toNat_oneMore, hn, beq_self_eq_true, if_pos rfl]
      omega
    · rw [if_neg hn, beq_false_of_ne hn, if_neg Bool.false_ne_true, Nat.add_zero]

theorem limit_charge (l : Ledger) (cs : List (Nin × String)) : (l.charge cs).limit = l.limit := by
  induction cs generalizing l with
  | nil => rfl
  | cons c cs ih => rw [charge_cons, ih, limit_cite]

theorem isOverused_iff {l : Ledger} {n : Nin} :
    l.isOverused n = true ↔ l.limit.toNat < (l.count n).toNat := by
  rw [isOverused, decide_eq_true_iff, UInt32.lt_iff_toNat_lt]

/-- **Who was overused stays overused.** -/
theorem isOverused_charge {l : Ledger} {n : Nin} (h : l.isOverused n = true)
    (cs : List (Nin × String)) : (l.charge cs).isOverused n = true := by
  have hlt := (l.count n).toNat_lt_size
  rw [isOverused_iff] at h ⊢
  rw [limit_charge, count_charge]
  omega

end Ledger

end Birthright
