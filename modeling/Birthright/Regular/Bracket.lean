import Birthright.Regular.Escape

/-!
# Square brackets in regular expressions

Square brackets hold members: characters, ranges of characters, classes with names such as
`[:alpha:]`, and further brackets. A caret at the start stands for anything else. Two ampersands,
two hyphens or two tildes combine what is before and after them. A hyphen at the start stands for
itself, and so does a closing bracket that would leave nothing between the brackets.

Whatever goes deep adds to the depth of an expression, which is limited.
-/

namespace Birthright.Regular

/-- What has been read after an opening bracket. -/
structure Bracket where
  /-- Whether there have only been hyphens. -/
  atStart : Bool
  /-- The number of members since the last operator. -/
  members : Nat
  /-- How deep these members go. -/
  depth : Nat
  /-- How deep everything before the last operator goes, if there is an operator. -/
  before : Option Nat
  deriving DecidableEq, Repr

namespace Bracket

/-- Nothing has been read. -/
def opened : Bracket := ⟨true, 0, 0, none⟩

/-- A member has been read. -/
def add (b : Bracket) (depth : Nat) : Bracket :=
  { b with atStart := false, members := b.members + 1, depth := max b.depth depth }

/-- A hyphen at the start has been read. -/
def addHyphen (b : Bracket) : Bracket := { b.add 0 with atStart := true }

/-- How deep everything goes. -/
def contentDepth (b : Bracket) : Nat :=
  let depth := if b.members ≤ 1 then b.depth else b.depth + 1
  match b.before with
  | none => depth
  | some before => max before depth + 1

/-- An operator has been read. -/
def operator (b : Bracket) : Bracket := ⟨false, 0, 0, some b.contentDepth⟩

end Bracket

/-! ## Members -/

/-- The names of classes. -/
def classNames : List String :=
  ["alnum", "alpha", "ascii", "blank", "cntrl", "digit", "graph", "lower", "print", "punct",
   "space", "upper", "word", "xdigit"]

/-- Reads a class with a name after its opening bracket, and whether it stands for anything else. -/
def namedClass? : List Char → Option (Bool × List Char)
  | ':' :: s =>
    let (negated, s) := match s with
      | '^' :: rest => (true, rest)
      | _ => (false, s)
    let name := s.takeWhile (· != ':')
    match s.drop name.length with
    | ':' :: ']' :: rest =>
      if classNames.any (·.toList = name) then some (negated, rest) else none
    | _ => none
  | _ => none

/-- Whether a class with a name may be used. -/
def Options.allowsClass (o : Options) (negated : Bool) : Bool :=
  if o.characters then !o.ignoresCase else !negated

/-- Reads a character, or a class of them given by an escape. -/
def member? (o : Options) : List Char → Option (Option Char × List Char)
  | [] => none
  | '\\' :: s => do
    match ← escape? o s with
    | (.character c _, rest) => if o.allowsMember c then some (some c, rest) else none
    | (.oneOf, rest) => some (none, rest)
    | (.position, _) => none
  | c :: s => if o.allowsMember c then some (some c, s) else none

/-- The character that a hyphen is looked at together with. -/
def Options.afterHyphen? (o : Options) (s : List Char) : Option Char :=
  if o.ignoresBlanks then
    match Text.skipBlanks s with
    | '#' :: rest => (Text.skipBlanks rest).head? <|> s.head?
    | c :: _ => some c
    | [] => s.head?
  else s.head?

/-- Reads a member that may be a range of characters. A hyphen before another one makes none. -/
def range? (o : Options) (s : List Char) : Option (List Char) := do
  let (first, rest) ← member? o s
  match o.skip rest with
  | [] => none
  | '-' :: after =>
    if o.afterHyphen? after ∈ [some ']', some '-'] then return '-' :: after
    else
      match first, ← member? o (o.skip after) with
      | some a, (some b, rest) => if a ≤ b then some rest else none
      | _, _ => none
  | rest => some rest

/-! ## Nested brackets -/

/-- Reads what follows an opening bracket directly. -/
def openBracket? (o : Options) (s : List Char) : Option (List Char) :=
  match o.skip s with
  | '^' :: rest => if o.allowsOthers then some rest else none
  | rest => some rest

/--
Reads the next part within brackets, of which the innermost is given first: either there are still
brackets open after it, or the depth of everything in them.
-/
def bracketPart? (o : Options) (b : Bracket) (outer : List Bracket) (s : List Char) :
    Option ((List Bracket ⊕ Nat) × List Char) :=
  let member (added : Bracket) (rest : List Char) : Option ((List Bracket ⊕ Nat) × List Char) :=
    if o.allowsMember '-' then some (.inl (added :: outer), rest) else none
  match s with
  | [] => none
  | '[' :: rest =>
    match namedClass? rest with
    | some (negated, rest) =>
      if o.allowsClass negated then some (.inl (b.add 0 :: outer), rest) else none
    | none => do return (.inl (.opened :: b :: outer), ← openBracket? o rest)
  | ']' :: rest =>
    if b.atStart && b.members == 0 then member (b.add 0) rest
    else
      match outer with
      | [] => some (.inr (b.contentDepth + 1), rest)
      | parent :: outer => some (.inl (parent.add (b.contentDepth + 1) :: outer), rest)
  | c :: rest =>
    if b.atStart && c == '-' then member b.addHyphen rest
    else if c ∈ ['&', '-', '~'] ∧ rest.head? = some c then
      some (.inl (b.operator :: outer), rest.drop 1)
    else do return (.inl (b.add 0 :: outer), ← range? o (c :: rest))

end Birthright.Regular
