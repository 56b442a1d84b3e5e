import Birthright.Text.Blank
import Birthright.Text.HiddenTable
import Birthright.Text.Numeral

/-!
# Quoted text

A text between double quotes in which nothing is hidden: quotes and backslashes are escaped, line
breaks, tabs and the null character have letters of their own, and every other character without a
visible form of its own is written as its code point in hexadecimal between braces.
-/

namespace Birthright.Text

/-- Characters that cannot be recognised when they are written as they are. -/
def isHidden (c : Char) : Bool := inRanges hiddenRanges c.toNat

/-- One character as it is written between the quotes. -/
def quotedChar (c : Char) : List Char :=
  match c with
  | '"' => ['\\', '"']
  | '\\' => ['\\', '\\']
  | '\n' => ['\\', 'n']
  | '\r' => ['\\', 'r']
  | '\t' => ['\\', 't']
  | '\x00' => ['\\', '0']
  | c => if isHidden c then ['\\', 'u', '\x7b'] ++ hexadecimal c.toNat ++ ['\x7d'] else [c]

/-- A text in double quotes. -/
def quoted (s : List Char) : List Char := '"' :: (s.flatMap quotedChar ++ ['"'])

example : quoted "a\"\u0301 'b'".toList = "\"a\\\"\\u\x7b301\x7d 'b'\"".toList := by
  decide +kernel

end Birthright.Text
