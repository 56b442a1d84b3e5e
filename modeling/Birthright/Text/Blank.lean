/-!
# Blank characters, trimming and words

A character is blank when it has the property `White_Space`. Trimming and splitting into words
are stated over `List Char`; the `String` forms only wrap them.
-/

namespace Birthright.Text

/-- Closed ranges of the code points with the property `White_Space`, ascending and apart. -/
def blankRanges : List (Nat × Nat) :=
  [(0x09, 0x0D), (0x20, 0x20), (0x85, 0x85), (0xA0, 0xA0), (0x1680, 0x1680), (0x2000, 0x200A),
   (0x2028, 0x2029), (0x202F, 0x202F), (0x205F, 0x205F), (0x3000, 0x3000)]

/-- Whether a code point lies in one of the ranges. -/
def inRanges (ranges : List (Nat × Nat)) (n : Nat) : Bool :=
  ranges.any fun r => r.1 ≤ n && n ≤ r.2

/-- Blank characters separate words and are dropped by trimming. -/
def isBlank (c : Char) : Bool := inRanges blankRanges c.toNat

/-! ## Trimming -/

/-- Drops the leading blanks. -/
def skipBlanks (s : List Char) : List Char := s.dropWhile isBlank

/-- Drops the blanks on both sides. -/
def trim (s : List Char) : List Char := (skipBlanks (skipBlanks s).reverse).reverse

/-- A text without the blanks on either side. -/
def trimmed (s : String) : String := String.ofList (trim s.toList)

/-! ## Words -/

/-- The run of non-blank characters a text starts with, and the words after it. -/
def leadAndWords : List Char → List Char × List (List Char)
  | [] => ([], [])
  | c :: s =>
    let (lead, later) := leadAndWords s
    if isBlank c then ([], if lead.isEmpty then later else lead :: later) else (c :: lead, later)

/-- The maximal runs of non-blank characters, in order. -/
def words (s : List Char) : List (List Char) :=
  let (lead, later) := leadAndWords s
  if lead.isEmpty then later else lead :: later

/-- The words of a text with single spaces between them. -/
def squeeze (s : List Char) : List Char := [' '].intercalate (words s)

example : words "  brother \u2009 or SISTER\n".toList
    = ["brother".toList, "or".toList, "SISTER".toList] := by decide

end Birthright.Text
