import Birthright.Decimal.Binary

/-!
# Structured values

A number is an integer or a binary floating-point number, and the two are never equal. The members
of an object are kept in the order in which they are to be written; a value that was read has them
in ascending order of their names, each name once.
-/

namespace Birthright

/-- A structured value. -/
inductive Json where
  | null
  | bool (b : Bool)
  | int (n : Int)
  | float (x : Decimal.Binary)
  | str (s : String)
  | arr (items : List Json)
  | obj (members : List (String × Json))
  deriving Repr

namespace Json

/-- The member of an object with a name. -/
def member? (name : String) : Json → Option Json
  | .obj members => (members.find? (·.1 = name)).map (·.2)
  | _ => none

/-- A text, or `null` where there is none. -/
def ofText? : Option String → Json
  | some s => .str s
  | none => .null

/-- A natural number. -/
def ofNat (n : Nat) : Json := .int n

end Json

end Birthright
