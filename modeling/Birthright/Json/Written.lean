import Birthright.Json.Token
import Birthright.Table

/-!
# Structured text as it is written

`Written` keeps what a text says before it is given a meaning: the members of an object in their
order and with their repetitions, numbers as numerals, and quoted texts that have no value.

## Mechanism

A stack machine reads the tokens one by one. `Frame` is an array or object that has not been
closed yet; `Place` says what may come next. The machine is a fold over the tokens, so it needs no
bound on its steps.
-/

namespace Birthright.Json

/-- A structured text, read but not yet given a meaning. -/
inductive Written where
  | null
  | bool (b : Bool)
  | number (n : Numeral)
  | text (s : Option String)
  | items (l : List Written)
  | members (l : List (Option String × Written))
  deriving Repr

/-- An array or object that is still open, with its parts so far, the last one first. -/
inductive Frame where
  | items (done : List Written)
  | members (done : List (Option String × Written)) (name : Option String)

/-- What may come next, and the frames around it from the inside out. -/
inductive Place where
  /-- A value. -/
  | value (stack : List Frame)
  /-- The first value of an array, or its end. -/
  | itemOrEnd (stack : List Frame)
  /-- The first name of an object, or its end. -/
  | nameOrEnd (stack : List Frame)
  /-- The next name of an object. -/
  | name (done : List (Option String × Written)) (stack : List Frame)
  /-- The colon after a name. -/
  | colon (done : List (Option String × Written)) (name : Option String) (stack : List Frame)
  /-- A value is complete: what continues or closes the innermost frame. -/
  | complete (v : Written) (stack : List Frame)

namespace Place

/-- The place after the first token of a value. -/
def begin? (stack : List Frame) : Token → Option Place
  | .null => some (.complete .null stack)
  | .bool b => some (.complete (.bool b) stack)
  | .number n => some (.complete (.number n) stack)
  | .text s => some (.complete (.text s) stack)
  | .openArray => some (.itemOrEnd stack)
  | .openObject => some (.nameOrEnd stack)
  | _ => none

/-- The place after one more token. -/
def step? : Place → Token → Option Place
  | .value stack, t => begin? stack t
  | .itemOrEnd stack, .closeArray => some (.complete (.items []) stack)
  | .itemOrEnd stack, t => begin? (.items [] :: stack) t
  | .nameOrEnd stack, .closeObject => some (.complete (.members []) stack)
  | .nameOrEnd stack, .text k => some (.colon [] k stack)
  | .name done stack, .text k => some (.colon done k stack)
  | .colon done k stack, .colon => some (.value (.members done k :: stack))
  | .complete v (.items done :: stack), .comma => some (.value (.items (v :: done) :: stack))
  | .complete v (.items done :: stack), .closeArray =>
    some (.complete (.items (v :: done).reverse) stack)
  | .complete v (.members done k :: stack), .comma => some (.name ((k, v) :: done) stack)
  | .complete v (.members done k :: stack), .closeObject =>
    some (.complete (.members ((k, v) :: done).reverse) stack)
  | _, _ => none

end Place

namespace Written

/-- The one value that a list of tokens spells. -/
def ofTokens? (tokens : List Token) : Option Written :=
  match tokens.foldlM Place.step? (.value []) with
  | some (.complete v []) => some v
  | _ => none

/-- Reads a whole text. -/
def ofText? (s : String) : Option Written := tokens? s.toList >>= ofTokens?

mutual

/-- The value of a text in which arrays and objects are nested no deeper than `levels`. -/
def value? (levels : Nat) : Written → Option Json
  | .null => some .null
  | .bool b => some (.bool b)
  | .number n => n.value?
  | .text s => s.map .str
  | .items l =>
    match levels with
    | 0 => none
    | deeper + 1 => (values? deeper l).map .arr
  | .members l =>
    match levels with
    | 0 => none
    | deeper + 1 => (entries? deeper l).map fun es => .obj (Table.ofList es)

/-- The values of all items. -/
def values? (levels : Nat) : List Written → Option (List Json)
  | [] => some []
  | w :: rest => do return (← value? levels w) :: (← values? levels rest)

/-- The names and values of all members. -/
def entries? (levels : Nat) : List (Option String × Written) → Option (List (String × Json))
  | [] => some []
  | (k, w) :: rest => do return (← k, ← value? levels w) :: (← entries? levels rest)

end

/-! ## Parts of a text with a known form -/

/-- A quoted text. -/
def string? : Written → Option String
  | .text s => s
  | _ => none

/-- One of the words `true` and `false`. -/
def bool? : Written → Option Bool
  | .bool b => some b
  | _ => none

/-- An integer without a sign, below a bound. -/
def natBelow? (bound : Nat) : Written → Option Nat
  | .number n =>
    match n.value? with
    | some (.int (.ofNat v)) => if v < bound then some v else none
    | _ => none
  | _ => none

/-- An integer of 32 bits without a sign. -/
def word? (w : Written) : Option UInt32 := (w.natBelow? UInt32.size).map UInt32.ofNat

/-- An integer of 32 bits with a sign. -/
def signed32? : Written → Option Int
  | .number n =>
    match n.value? with
    | some (.int v) => if -2147483648 ≤ v ∧ v ≤ 2147483647 then some v else none
    | _ => none
  | _ => none

/-- Reads a part that may also be `null`. -/
def orNull? {α : Type} (read : Written → Option α) : Written → Option (Option α)
  | .null => some none
  | w => (read w).map some

/-- One of several spellings, alone or as the name of a single member that is `null`. -/
def choice? {α : Type} (read : String → Option α) : Written → Option α
  | .text s => s >>= read
  | .members [(some k, .null)] => read k
  | _ => none

/-- The names and values of an object, as they are written. -/
def members? : Written → Option (List (String × Written))
  | .members l => l.mapM fun m => m.1.map (·, m.2)
  | _ => none

/-- Reads all members of an object; of two with one name the later counts. -/
def table? {α : Type} (read : Written → Option α) (w : Written) : Option (Table String α) := do
  let members ← w.members?
  return Table.ofList (← members.mapM fun m => do return (m.1, ← read m.2))

/-! ## Records -/

/-- The part written under a name, if it is written there at most once. -/
def once? (members : List (String × Written)) (name : String) : Option (Option Written) :=
  match members.filter (·.1 = name) with
  | [] => some none
  | [m] => some (some m.2)
  | _ => none

/--
The parts of a record, in the order of the names. A record is an object, in which other names are
ignored, or an array of at least `least` and at most all of its parts.
-/
def parts? (names : List String) (least : Nat) : Written → Option (List (Option Written))
  | .items l =>
    if least ≤ l.length ∧ l.length ≤ names.length then
      some (l.map some ++ List.replicate (names.length - l.length) none)
    else none
  | w => do (← w.members?) |> fun members => names.mapM (once? members)

/-- Reads a part that must be written. -/
def required? {α : Type} (read : Written → Option α) : Option Written → Option α
  | some w => read w
  | none => none

/-- Reads a part that may be left out or `null`. -/
def optional? {α : Type} (read : Written → Option α) : Option Written → Option (Option α)
  | some w => orNull? read w
  | none => some none

end Written

/-- How deep arrays and objects may be nested in a text. -/
def deepest : Nat := 127

/-- Reads a whole text as a value. -/
def ofText (s : String) : Option Json := Written.ofText? s >>= Written.value? deepest

end Birthright.Json
