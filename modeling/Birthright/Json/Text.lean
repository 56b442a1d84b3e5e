import Birthright.Json.Number

/-!
# Writing structured values

The compact form has no blanks; the indented form has every item and member on a line of its own.
In a quoted text only quotes, backslashes and control characters are escaped.
-/

namespace Birthright.Json

/-- One character as it is written between quotes. -/
def escapedChar (c : Char) : List Char :=
  match c with
  | '"' => ['\\', '"']
  | '\\' => ['\\', '\\']
  | '\x08' => ['\\', 'b']
  | '\t' => ['\\', 't']
  | '\n' => ['\\', 'n']
  | '\x0c' => ['\\', 'f']
  | '\r' => ['\\', 'r']
  | c =>
    if c.toNat < 0x20 then
      let digits := Text.hexadecimal c.toNat
      ['\\', 'u'] ++ List.replicate (4 - digits.length) '0' ++ digits
    else [c]

/-- A text in quotes. -/
def quotedText (s : String) : List Char := '"' :: (s.toList.flatMap escapedChar ++ ['"'])

/-- Puts commas between the parts. -/
def separated (parts : List (List Char)) : List Char := [','].intercalate parts

mutual

/-- The compact form of a value. -/
def compact : Json → List Char
  | .null => "null".toList
  | .bool b => (if b then "true" else "false").toList
  | .int n => Text.decimalInt n
  | .float x => floatLayout.text x
  | .str s => quotedText s
  | .arr items => '[' :: (separated (compactItems items) ++ [']'])
  | .obj members => '\x7b' :: (separated (compactMembers members) ++ ['\x7d'])

/-- The compact forms of the items of an array. -/
def compactItems : List Json → List (List Char)
  | [] => []
  | v :: rest => compact v :: compactItems rest

/-- The compact forms of the members of an object. -/
def compactMembers : List (String × Json) → List (List Char)
  | [] => []
  | (k, v) :: rest => (quotedText k ++ ':' :: compact v) :: compactMembers rest

end

/-- The compact text of a value. -/
def text (v : Json) : String := String.ofList v.compact

/-! ## The indented form -/

/-- Parts on lines of their own between two marks, two spaces further in than the marks. -/
def block (opening closing : Char) (indent : Nat) (parts : List (List Char)) : List Char :=
  if parts.isEmpty then [opening, closing]
  else
    let line (n : Nat) := '\n' :: List.replicate n ' '
    opening :: ([','].intercalate (parts.map (line (indent + 2) ++ ·)) ++ line indent ++ [closing])

mutual

/-- The indented form of a value that starts `indent` spaces from the left. -/
def indented (indent : Nat) : Json → List Char
  | .arr items => block '[' ']' indent (indentedItems (indent + 2) items)
  | .obj members => block '\x7b' '\x7d' indent (indentedMembers (indent + 2) members)
  | .null => compact .null
  | .bool b => compact (.bool b)
  | .int n => compact (.int n)
  | .float x => compact (.float x)
  | .str s => compact (.str s)

/-- The indented forms of the items of an array. -/
def indentedItems (indent : Nat) : List Json → List (List Char)
  | [] => []
  | v :: rest => indented indent v :: indentedItems indent rest

/-- The indented forms of the members of an object. -/
def indentedMembers (indent : Nat) : List (String × Json) → List (List Char)
  | [] => []
  | (k, v) :: rest =>
    (quotedText k ++ [':', ' '] ++ indented indent v) :: indentedMembers indent rest

end

/-- The indented text of a value. -/
def indentedText (v : Json) : String := String.ofList (v.indented 0)

end Birthright.Json
