/-!
# Tables

A table is a list of entries in ascending order of their keys, each key once. `get?` and `insert`
are its whole interface; `get?_insert` is all that a proof needs to know of them and holds of any
list of entries.
-/

namespace Birthright

/-- Entries with keys, in ascending order when they were put in by `Table.insert`. -/
abbrev Table (κ α : Type) : Type := List (κ × α)

namespace Table

variable {κ α : Type} [DecidableEq κ]

/-- The value under a key. -/
def get? (t : Table κ α) (k : κ) : Option α :=
  match t with
  | [] => none
  | (j, v) :: rest => if j = k then some v else get? rest k

variable [LT κ] [DecidableLT κ]

/-- Puts a value under a key, in place of the one that was there. -/
def insert (t : Table κ α) (k : κ) (v : α) : Table κ α :=
  match t with
  | [] => [(k, v)]
  | (j, w) :: rest =>
    if k = j then (k, v) :: rest
    else if k < j then (k, v) :: (j, w) :: rest
    else (j, w) :: insert rest k v

/-- The table of a list of entries; of two with one key the later counts. -/
def ofList (entries : List (κ × α)) : Table κ α :=
  entries.foldl (fun t e => insert t e.1 e.2) []

/-- **Reading after a write**: the new value under its key, the old ones elsewhere. -/
theorem get?_insert (t : Table κ α) (k j : κ) (v : α) :
    get? (insert t k v) j = if k = j then some v else get? t j := by
  induction t with
  | nil => simp [insert, get?]
  | cons e rest ih =>
    obtain ⟨i, w⟩ := e
    unfold insert
    split
    · next h => subst h; by_cases hj : k = j <;> simp [get?, hj]
    · split
      · simp [get?]
      · next h _ =>
        by_cases hi : i = j
        · subst hi; simp [get?, h]
        · simp [get?, hi, ih]

end Table

end Birthright
