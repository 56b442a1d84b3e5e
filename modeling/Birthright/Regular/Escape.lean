import Birthright.Text.Blank
import Birthright.Text.Numeral

/-!
# Options and escapes of regular expressions

Options can be switched within an expression. By default it is about characters, and may then use
nothing that needs a table of their properties: neither classes such as `\d`, nor the boundaries of
words, nor small and capital letters that count as the same. Without this option it is about bytes,
and may then use nothing that could match a part of a character.

An escape is a backslash and what follows it. The text around an expression goes on at the first
closing brace, so that nothing in an expression that needs one is ever complete.
-/

namespace Birthright.Regular

/-! ## Options -/

/-- The options that decide which expressions there are. -/
structure Options where
  /-- Whether the expression is about characters. -/
  characters : Bool
  /-- Whether small and capital letters are the same. -/
  ignoresCase : Bool
  /-- Whether blanks and comments stand for nothing. -/
  ignoresBlanks : Bool
  deriving DecidableEq, Repr

namespace Options

/-- The options that an expression begins with. -/
def standard : Options := ⟨true, false, false⟩

/-- Letters that switch options, and the hyphen before those that switch them off. -/
def letters : List Char := ['-', 'i', 'm', 's', 'x', 'u', 'R', 'U']

/-- Reads letters that switch options; none may occur twice, nor the hyphen at the end. -/
def letters? (s : List Char) : Option (List Char × List Char) :=
  let read := s.takeWhile fun c => c != ':' && c != ')'
  if read.all (· ∈ letters) && decide read.Nodup && read.getLast? != some '-' then
    some (read, s.drop read.length)
  else none

/-- The options after some of them are switched. -/
def switch (o : Options) (letters : List Char) : Options :=
  let added := letters.takeWhile (· != '-')
  let removed := letters.dropWhile (· != '-')
  let value (letter : Char) (before : Bool) : Bool :=
    letter ∈ added || before && letter ∉ removed
  ⟨value 'u' o.characters, value 'i' o.ignoresCase, value 'x' o.ignoresBlanks⟩

/-- Drops blanks and comments; a comment begins with a number sign and ends with the line. -/
def dropComments (inComment : Bool) : List Char → List Char
  | [] => []
  | c :: s =>
    if inComment then dropComments (c != '\n') s
    else if c = '#' then dropComments true s
    else if Text.isBlank c then dropComments false s
    else c :: s

/-- Drops what stands for nothing. -/
def skip (o : Options) (s : List Char) : List Char :=
  if o.ignoresBlanks then dropComments false s else s

/-- Whether a character may stand for itself; one that is given as a byte may be none at all. -/
def allowsCharacter (o : Options) (c : Char) (isByte : Bool) : Bool :=
  if o.characters then !o.ignoresCase else !(isByte && 0x7F < c.toNat)

/-- Whether a character may stand for itself between square brackets. -/
def allowsMember (o : Options) (c : Char) : Bool :=
  if o.characters then !o.ignoresCase else c.toNat ≤ 0x7F

/-- Whether anything but some given characters may be matched. -/
def allowsOthers (o : Options) : Bool := o.characters

end Options

/-! ## Escapes -/

/-- What an escape stands for. -/
inductive Meaning where
  /-- A character, or a byte with its number. -/
  | character (c : Char) (isByte : Bool)
  /-- One of several characters. -/
  | oneOf
  /-- A position in the text. -/
  | position
  deriving DecidableEq, Repr

/-- Reads exactly `n` hexadecimal digits. -/
def hexDigits? (o : Options) : Nat → List Char → Option (List Char × List Char)
  | 0, s => some ([], s)
  | n + 1, s =>
    match o.skip s with
    | [] => none
    | c :: rest => do
      let _ ← Text.hexValue? c
      let (digits, rest) ← hexDigits? o n rest
      return (c :: digits, rest)

/-- Reads the number of a character in `n` hexadecimal digits; two of them stand for a byte. -/
def numbered? (o : Options) (n : Nat) (s : List Char) : Option (Meaning × List Char) := do
  let (digits, rest) ← hexDigits? o n s
  let code := digits.foldl (fun v d => 16 * v + (Text.hexValue? d).getD 0) 0
  if code.isValidChar then return (.character (Char.ofNat code) (n = 2), rest) else none

/-- Reads what follows a backslash. -/
def escape? (o : Options) : List Char → Option (Meaning × List Char)
  | [] => none
  | c :: rest =>
    let character (c : Char) : Option (Meaning × List Char) := some (.character c false, rest)
    match c with
    | 'x' => numbered? o 2 rest
    | 'u' => numbered? o 4 rest
    | 'U' => numbered? o 8 rest
    | 'a' => character '\x07'
    | 't' => character '\t'
    | 'n' => character '\n'
    | 'v' => character '\x0b'
    | 'f' => character '\x0c'
    | 'r' => character '\r'
    | 'd' | 's' | 'w' => if o.characters then none else some (.oneOf, rest)
    | 'A' | 'z' => some (.position, rest)
    | 'b' | 'B' | '<' | '>' => if o.characters then none else some (.position, rest)
    | _ => if c.toNat < 0x80 && !c.isAlphanum then character c else none

example : escape? .standard "x41b".toList = some (.character 'A' true, ['b']) := by decide
example : escape? .standard "d".toList = none := rfl

end Birthright.Regular
