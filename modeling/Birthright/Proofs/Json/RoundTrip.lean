import Birthright.Proofs.Json.Spelling

/-!
# Values read back

A value without floating-point numbers is read back from its compact text as it was, if it is not
nested deeper than texts are read. Its members are in the order of their names already, so the table
that is made of them is the list that was written.

* `ofList_of_pairwise` — the table of entries in order is their list
* `Plain.ofText_text` — a value is read back from its compact text
-/

namespace Birthright

namespace Table

variable {κ α : Type} [DecidableEq κ] [LT κ] [DecidableLT κ] [Std.Asymm (α := κ) (· < ·)]

/-- A key after all others is put in at the end. -/
theorem insert_of_forall_lt {t : Table κ α} {k : κ} {v : α} (h : ∀ e ∈ t, e.1 < k) :
    insert t k v = t ++ [(k, v)] := by
  induction t with
  | nil => rfl
  | cons e rest ih =>
    have hlt : e.1 < k := h e List.mem_cons_self
    have hnot : ¬k < e.1 := Std.Asymm.asymm _ _ hlt
    have hne : k ≠ e.1 := by
      rintro rfl
      exact hnot hlt
    rw [insert, if_neg hne, if_neg hnot, ih fun e he => h e (List.mem_cons_of_mem _ he),
      List.cons_append]

/-- **The table of entries in order** is their list. -/
theorem ofList_of_pairwise {entries : List (κ × α)} (h : entries.Pairwise (·.1 < ·.1)) :
    ofList entries = entries := by
  have hfold : ∀ (l : List (κ × α)) (t : Table κ α), (t ++ l).Pairwise (·.1 < ·.1) →
      l.foldl (fun t e => insert t e.1 e.2) t = t ++ l := by
    intro l
    induction l with
    | nil => simp
    | cons e l ih =>
      intro t ht
      have hlast : ∀ e' ∈ t, e'.1 < e.1 := fun e' he' =>
        (List.pairwise_append.mp ht).2.2 e' he' e List.mem_cons_self
      rw [List.foldl_cons, insert_of_forall_lt hlast, ih, List.append_assoc, List.singleton_append]
      rwa [List.append_assoc, List.singleton_append]
  exact hfold entries [] h

end Table

namespace Json

variable {levels : Nat} {v : Json}

theorem values?_writtenItems {items : List Json}
    (h : ∀ v ∈ items, v.written.value? levels = some v) :
    Written.values? levels (writtenItems items) = some items := by
  induction items with
  | nil => rfl
  | cons v rest ih =>
    have hrest := ih fun w hw => h w (List.mem_cons_of_mem _ hw)
    simp [writtenItems, Written.values?, h v List.mem_cons_self, hrest]

theorem entries?_writtenMembers {members : List (String × Json)}
    (h : ∀ m ∈ members, m.2.written.value? levels = some m.2) :
    Written.entries? levels (writtenMembers members) = some members := by
  induction members with
  | nil => rfl
  | cons m rest ih =>
    have hrest := ih fun m' hm' => h m' (List.mem_cons_of_mem _ hm')
    simp [writtenMembers, Written.entries?, h m List.mem_cons_self, hrest]

/-- **The value of what was written** is the value that was written. -/
theorem Plain.value?_written (h : Plain levels v) : v.written.value? levels = some v := by
  induction h with
  | null => rfl
  | bool b => rfl
  | int hlow hhigh =>
    rw [written, spelled_decimalInt]
    exact value?_ofInt hlow hhigh
  | str s => rfl
  | @arr levels items h ih =>
    rw [written, Written.value?, values?_writtenItems ih]
    rfl
  | @obj levels members hsorted h ih =>
    rw [written, Written.value?, entries?_writtenMembers ih, Option.map_some,
      Table.ofList_of_pairwise hsorted]

/-- **A value is read back from its compact text**, if it is not nested too deep. -/
theorem Plain.ofText_text (h : Plain deepest v) : ofText v.text = some v := by
  rw [ofText, h.floatless.ofText?_text]
  exact h.value?_written

end Json

end Birthright
