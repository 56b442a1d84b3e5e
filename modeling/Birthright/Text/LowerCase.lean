import Birthright.Text.Blank
import Birthright.Text.CaseTable

/-!
# Full lower-casing

Every capital is replaced by its small letter. Two characters need more than a table of pairs:
`İ` becomes two characters, and `Σ` becomes `ς` at the end of a word and `σ` elsewhere. A word
ends at a `Σ` when the nearest character before it that is not case-ignorable is cased, and the
nearest such character after it is not.

Nothing is folded beyond case: `ß` stays `ß`, and composed and decomposed letters stay different.

## Mechanism

`lowerFrom` walks the text once and keeps what it has passed in reverse, so that both neighbours
of a `Σ` are at hand.
-/

namespace Birthright.Text

/-- Whether a character has case. -/
def isCased (c : Char) : Bool := inRanges casedRanges c.toNat

/-- Whether a character is passed over in the search for a neighbour with case. -/
def isCaseIgnorable (c : Char) : Bool := inRanges caseIgnorableRanges c.toNat

/-- The small letters of a character on its own; other characters stand for themselves. -/
def lowerChar (c : Char) : List Char :=
  if c = '\u0130' then ['i', '\u0307']
  else
    match caseRuns.find? (·.covers c.toNat) with
    | some run => [Char.ofNat (c.toNat + run.shift).toNat]
    | none => [c]

/-- Whether the first character that is not case-ignorable is cased. -/
def meetsCased (s : List Char) : Bool :=
  match s.dropWhile isCaseIgnorable with
  | c :: _ => isCased c
  | [] => false

/-- The small sigma between the text before it, in reverse, and the text after it. -/
def lowerSigma (before after : List Char) : Char :=
  if meetsCased before && !meetsCased after then 'ς' else 'σ'

/-- Lower-cases a text that follows `before`, which is given in reverse. -/
def lowerFrom (before : List Char) : List Char → List Char
  | [] => []
  | c :: s =>
    (if c = 'Σ' then [lowerSigma before s] else lowerChar c) ++ lowerFrom (c :: before) s

/-- Lower-cases a text. -/
def lower (s : List Char) : List Char := lowerFrom [] s

/-- A text in lower case. -/
def lowered (s : String) : String := String.ofList (lower s.toList)

example : lower "ΟΔΟΣ Σ".toList = "οδος σ".toList := by decide +kernel
example : lower "İß".toList = "i\u0307ß".toList := by decide +kernel

end Birthright.Text
