import Birthright.Identity
import Birthright.Log

/-!
# The usage ledger

The ledger counts how often each number was cited, in any role. A number is overused when it was
cited more often than the limit; a count that has reached the greatest number stays there.
-/

namespace Birthright

/-- Counts of citations, and the count up to which a number may be cited again. -/
structure Ledger where
  limit : UInt32
  counts : Table Nin UInt32
  deriving Repr

namespace Ledger

/-- How often a number was cited. -/
def count (l : Ledger) (nin : Nin) : UInt32 := (Table.get? l.counts nin).getD 0

/-- One more, or the greatest number. -/
def oneMore (n : UInt32) : UInt32 := if n.toNat + 1 < UInt32.size then n + 1 else n

/-- Counts one more citation of a number. -/
def cite (l : Ledger) (nin : Nin) : Ledger :=
  { l with counts := Table.insert l.counts nin (oneMore (l.count nin)) }

/-- Whether a number was cited more often than the limit. -/
def isOverused (l : Ledger) (nin : Nin) : Bool := l.limit < l.count nin

/-- What is noted when a citation is counted. -/
def citedEvent (l : Ledger) (nin : Nin) (role : String) : Event :=
  ⟨.debug, "recorded nin citation",
    [("nin", nin.masked), ("role", role), ("count", logNat ((l.cite nin).count nin).toNat)]⟩

/-- **A citation counts for its own number** and for no other. -/
theorem count_cite (l : Ledger) (nin other : Nin) :
    (l.cite nin).count other = if nin = other then oneMore (l.count nin) else l.count other := by
  unfold count cite
  simp only [Table.get?_insert]
  split <;> simp [count]

/-- The limit never changes. -/
theorem limit_cite (l : Ledger) (nin : Nin) : (l.cite nin).limit = l.limit := rfl

end Ledger

end Birthright
