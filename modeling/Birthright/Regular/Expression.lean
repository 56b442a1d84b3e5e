import Birthright.Regular.Bracket
import Birthright.Text.Alphanumeric

/-!
# Regular expressions

Which texts are regular expressions. An expression is made of alternatives with bars between them,
and an alternative of parts, which may be repeated: characters, escapes, brackets and groups. A
group may switch options, and may have a name that no other group has. Options that are switched
within a group hold until it ends.

The text is read part by part, with the groups that are open on a stack. How deep groups, brackets
and repetitions go into one another is counted, because it is limited.
-/

namespace Birthright.Regular

/-! ## What has been read -/

/-- The parts of an alternative. -/
structure Sequence where
  parts : Nat
  /-- How deep the parts go. -/
  depth : Nat
  /-- How deep the last part goes, if there is one that may be repeated. -/
  last : Option Nat
  deriving DecidableEq, Repr

namespace Sequence

/-- There are no parts. -/
def empty : Sequence := ⟨0, 0, none⟩

/-- The parts with one more. -/
def add (s : Sequence) (depth : Nat) : Sequence := ⟨s.parts + 1, max s.depth depth, some depth⟩

/-- The parts with switched options as one more. -/
def addSwitch (s : Sequence) : Sequence := ⟨s.parts + 1, s.depth, none⟩

/-- The parts with the last of them repeated. -/
def repeatLast? (s : Sequence) : Option Sequence :=
  s.last.map fun depth => ⟨s.parts, max s.depth (depth + 1), some (depth + 1)⟩

/-- How deep the alternative goes. -/
def totalDepth (s : Sequence) : Nat := if s.parts ≤ 1 then s.depth else s.depth + 1

end Sequence

/-- The alternatives of a group, the last of which is not yet complete. -/
structure Alternatives where
  /-- How deep the complete alternatives go, if there are any. -/
  depth : Option Nat
  sequence : Sequence
  deriving DecidableEq, Repr

namespace Alternatives

/-- There is one alternative without parts. -/
def empty : Alternatives := ⟨none, .empty⟩

/-- The last alternative is complete and another one begins. -/
def next (a : Alternatives) : Alternatives :=
  ⟨some (max (a.depth.getD 0) a.sequence.totalDepth), .empty⟩

/-- How deep the alternatives go. -/
def totalDepth (a : Alternatives) : Nat :=
  match a.depth with
  | none => a.sequence.totalDepth
  | some depth => max depth a.sequence.totalDepth + 1

end Alternatives

/-- What has been read of an expression. -/
structure Progress where
  options : Options
  /-- The brackets that are open, the innermost first. -/
  brackets : List Bracket
  /-- The innermost group, or the whole expression. -/
  group : Alternatives
  /-- What is around the open groups, with the options that hold again after them. -/
  outer : List (Options × Alternatives)
  /-- The names of groups. -/
  names : List (List Char)
  deriving DecidableEq, Repr

namespace Progress

/-- Nothing has been read. -/
def start : Progress := ⟨.standard, [], .empty, [], []⟩

/-- Whether the expression may end here. -/
def isComplete (p : Progress) : Bool := p.brackets.isEmpty && p.outer.isEmpty

/-- Changes the parts that the innermost group ends with. -/
def modifySequence (p : Progress) (f : Sequence → Sequence) : Progress :=
  { p with group := { p.group with sequence := f p.group.sequence } }

/-- A part has been read. -/
def add (p : Progress) (depth : Nat) : Progress := p.modifySequence (·.add depth)

/-- The last part is repeated. -/
def repeatLast? (p : Progress) : Option Progress :=
  p.group.sequence.repeatLast?.map fun s => p.modifySequence fun _ => s

/-- A group begins. -/
def enter (p : Progress) (options : Options) : Progress :=
  { p with options := options, group := .empty, outer := (p.options, p.group) :: p.outer }

/-- A group ends. -/
def leave? (p : Progress) : Option Progress :=
  match p.outer with
  | [] => none
  | (options, group) :: outer =>
    some ({ p with options := options, group := group, outer := outer }.add
      (p.group.totalDepth + 1))

end Progress

/-! ## Groups -/

/-- Whether a text can be the name of a group. -/
def isGroupName : List Char → Bool
  | [] => false
  | c :: rest =>
    (c == '_' || Text.isLetter c)
      && rest.all fun c => c ∈ ['_', '.', '[', ']'] || Text.isAlphanumeric c

/-- Reads the name of a group up to the bracket after it. -/
def named? (p : Progress) (s : List Char) : Option (Progress × List Char) :=
  let name := s.takeWhile (· != '>')
  match s.drop name.length with
  | '>' :: rest =>
    if isGroupName name && name ∉ p.names then
      some ({ p.enter p.options with names := name :: p.names }, rest)
    else none
  | _ => none

/--
Reads what follows an opening parenthesis: the name of a group, options that are switched for the
group or for the rest of the group around, or nothing special. It cannot be looked ahead or behind.
-/
def openGroup? (p : Progress) (s : List Char) : Option (Progress × List Char) :=
  match p.options.skip s with
  | '?' :: '<' :: '=' :: _ | '?' :: '<' :: '!' :: _ => none
  | '?' :: 'P' :: '<' :: s | '?' :: '<' :: s => named? p s
  | '?' :: s => do
    let (letters, rest) ← Options.letters? s
    let options := p.options.switch letters
    match rest with
    | ':' :: rest => return (p.enter options, rest)
    | ')' :: rest =>
      if letters.isEmpty then none
      else return ({ p.modifySequence Sequence.addSwitch with options := options }, rest)
    | _ => none
  | s => some (p.enter p.options, s)

/-! ## Whole expressions -/

/-- Reads the next part of an expression, of which there is some text left. -/
def part? (p : Progress) (s : List Char) : Option (Progress × List Char) :=
  let o := p.options
  match p.brackets, o.skip s with
  | _, [] => some (p, [])
  | b :: outer, s => do
    match ← bracketPart? o b outer s with
    | (.inl brackets, rest) => return ({ p with brackets := brackets }, rest)
    | (.inr depth, rest) => return ({ p with brackets := [] }.add depth, rest)
  | [], c :: s =>
    match c with
    | '(' => openGroup? p s
    | ')' => do return (← p.leave?, s)
    | '|' => some ({ p with group := p.group.next }, s)
    | '[' => do return ({ p with brackets := [.opened] }, ← openBracket? o s)
    | '?' | '*' | '+' => do
      let p ← p.repeatLast?
      match s with
      | '?' :: rest => return (p, rest)
      | rest => return (p, rest)
    | '\x7b' => none
    | '\\' => do
      let (meaning, rest) ← escape? o s
      match meaning with
      | .character c isByte => if o.allowsCharacter c isByte then some (p.add 0, rest) else none
      | .oneOf | .position => return (p.add 0, rest)
    | '.' => if o.allowsOthers then some (p.add 0, s) else none
    | '^' | '$' => some (p.add 0, s)
    | c => if o.allowsCharacter c false then some (p.add 0, s) else none

/-- Reads at most `n` parts of an expression, which have to be the last ones. -/
def readParts? : Nat → Progress → List Char → Option Progress
  | _, p, [] => some p
  | 0, _, _ :: _ => none
  | n + 1, p, s => do
    let (next, rest) ← part? p s
    readParts? n next rest

/-- How deep an expression may go. -/
def greatestDepth : Nat := 250

/-- Whether a text is a regular expression. Every part of it has a character at least. -/
def isExpression (s : List Char) : Bool :=
  (readParts? s.length .start s).any fun p =>
    p.isComplete && p.group.totalDepth ≤ greatestDepth

example : isExpression "(?<name>a|b+?)[^[:alpha:]x-z&&[y]]**$".toList = true := by decide +kernel
example : isExpression "(?i)a".toList = false := by decide +kernel
example : isExpression "(?-u)\\d\\b(?x: a # b)".toList = false := by decide +kernel

end Birthright.Regular
