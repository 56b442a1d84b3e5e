import Birthright.Table
import Birthright.Text.Alphanumeric

/-!
# Variables and files of assignments

A file of assignments has lines such as `export APP_HOST = "localhost" # for now`. Reading it sets
every variable that is not set yet, line by line, and ends without complaint at the first line that
is no assignment.

## Lines

An assignment extends over several lines of the file while a quote is open. A backslash before a
line break hides that character and continues nothing, so only at the end of the file can a
backslash or a blank be what comes last; an assignment that ends in one, or in an open quote, never
ends. `LineState` follows quotes and escapes just far enough to see where an assignment ends and
where a comment begins.

## Values

A value ends at the first blank outside of quotes; only a comment may follow. A backslash escapes
some characters and makes a line break of `n`. Single quotes take everything as it is, although a
quote after a backslash does not count when the end of the assignment is looked for. Elsewhere a
dollar sign stands for the value of the variable that is named by the letters and numbers after it,
or by whatever is between the braces after it. The character after such a name belongs to the
value, even if it is a quote or a blank.
-/

namespace Birthright

/-- The variables that are set. -/
abbrev Variables : Type := Table String String

namespace EnvFile

/-! ## Lines -/

/-- What is open at a character of a line. -/
inductive LineState where
  | plain
  | blank
  | escape
  | doubleQuote
  | doubleQuoteEscape
  | singleQuote
  | singleQuoteEscape
  deriving DecidableEq, Repr

namespace LineState

/-- What a quote or a backslash opens outside of quotes. -/
def opening (c : Char) : LineState :=
  match c with
  | '\\' => .escape
  | '"' => .doubleQuote
  | '\'' => .singleQuote
  | _ => .plain

/-- What is open after one more character; nothing if a comment begins with it. -/
def step? : LineState → Char → Option LineState
  | .plain, c => if Text.isBlank c && c != '\n' && c != '\r' then some .blank else some (opening c)
  | .blank, c => if c = '#' then none else some (opening c)
  | .escape, _ => some .plain
  | .doubleQuote, '\\' => some .doubleQuoteEscape
  | .doubleQuote, '"' => some .plain
  | .doubleQuote, _ => some .doubleQuote
  | .doubleQuoteEscape, _ => some .doubleQuote
  | .singleQuote, '\\' => some .singleQuoteEscape
  | .singleQuote, '\'' => some .plain
  | .singleQuote, _ => some .singleQuote
  | .singleQuoteEscape, _ => some .singleQuote

end LineState

/-- What is open after a line, or what precedes a comment in it. -/
def follow (state : LineState) : List Char → Except (List Char) LineState
  | [] => .ok state
  | c :: rest =>
    match state.step? c with
    | some next => (follow next rest).mapError (c :: ·)
    | none => .error []

/-- The lines of a text, with their line breaks. -/
def splitLines : List Char → List (List Char)
  | [] => []
  | c :: rest =>
    if c = '\n' then [c] :: splitLines rest
    else
      match splitLines rest with
      | [] => [[c]]
      | line :: lines => (c :: line) :: lines

/-- A line without its line break. -/
def dropLineBreak (line : List Char) : List Char :=
  match line.reverse with
  | '\n' :: '\r' :: rest => rest.reverse
  | '\n' :: rest => rest.reverse
  | _ => line

/--
Joins lines of the file into lines that may hold an assignment; `none` stands for one that never
ends. A comment belongs to no assignment.
-/
def joinLines (begun : List Char) (state : LineState) :
    List (List Char) → List (Option (List Char))
  | [] => if state = .plain then [] else [none]
  | line :: rest =>
    let joined := begun ++ line
    if (Text.skipBlanks joined).head? = some '#' then some [] :: joinLines [] .plain rest
    else
      match follow state line with
      | .error before => some (begun ++ before) :: joinLines [] .plain rest
      | .ok .plain => some (dropLineBreak joined) :: joinLines [] .plain rest
      | .ok next => joinLines joined next rest

/-! ## Values -/

/-- What is open at a character of a value; `quoted` says whether double quotes are. -/
inductive ValueState where
  | plain (quoted : Bool)
  | escape (quoted : Bool)
  | singleQuote
  /-- In the name of a variable after a dollar sign. -/
  | name (quoted : Bool) (done : List Char)
  /-- In the name of a variable between braces. -/
  | braced (quoted : Bool) (done : List Char)
  /-- After the value. -/
  | ended
  /-- In a comment after the value. -/
  | comment
  deriving DecidableEq, Repr

/--
What a name stands for; nothing if it stands for no variable. A name is looked for among the
entries `name=value`, at the beginning of one and before an equals sign. So `A=k` is the name of
what follows `k=` in the value of `A`.
-/
def valueOf (vars : Variables) (name : List Char) : List Char :=
  match Table.get? vars (String.ofList (name.takeWhile (· != '='))) with
  | none => []
  | some value =>
    let entry := '=' :: value.toList
    let skipped := name.dropWhile (· != '=') ++ ['=']
    if skipped.isPrefixOf entry then entry.drop skipped.length else []

/-- The character that stands for itself, or for a line break, after a backslash. -/
def unescape? (c : Char) : Option Char :=
  if c ∈ ['\\', '\'', '"', '$', ' '] then some c else if c = 'n' then some '\n' else none

/-- What is open after one more character, and what it adds to the value. -/
def ValueState.step? (vars : Variables) (state : ValueState) (c : Char) :
    Option (ValueState × List Char) :=
  match state with
  | .comment => some (.comment, [])
  | .ended =>
    if c = ' ' ∨ c = '\t' then some (.ended, [])
    else if c = '#' then some (.comment, [])
    else none
  | .escape quoted => (unescape? c).map fun d => (.plain quoted, [d])
  | .singleQuote => if c = '\'' then some (.plain false, []) else some (.singleQuote, [c])
  | .name quoted done =>
    if Text.isAlphanumeric c then some (.name quoted (done ++ [c]), [])
    else if c = '\x7b' ∧ done = [] then some (.braced quoted [], [])
    else if c = '$' then some (.name quoted [], valueOf vars done)
    else some (.plain quoted, valueOf vars done ++ [c])
  | .braced quoted done =>
    if Text.isAlphanumeric c ∨ c ≠ '\x7d' then some (.braced quoted (done ++ [c]), [])
    else some (.plain quoted, valueOf vars done)
  | .plain quoted =>
    if c = '$' then some (.name quoted [], [])
    else if c = '\\' then some (.escape quoted, [])
    else if c = '"' then some (.plain !quoted, [])
    else if quoted then some (.plain true, [c])
    else if c = '\'' then some (.singleQuote, [])
    else if c = ' ' ∨ c = '\t' then some (.ended, [])
    else some (.plain false, [c])

/-- What the end of the line adds to a value, if it may end there. -/
def ValueState.finish? (vars : Variables) : ValueState → Option (List Char)
  | .plain quoted | .escape quoted => if quoted then none else some []
  | .name quoted done => if quoted then none else some (valueOf vars done)
  | .singleQuote | .braced _ _ => none
  | .ended | .comment => some []

/-- The value that is written in the rest of a line. -/
def value? (vars : Variables) (state : ValueState) : List Char → Option (List Char)
  | [] => state.finish? vars
  | c :: rest => do
    let (next, added) ← state.step? vars c
    return added ++ (← value? vars next rest)

/-! ## Assignments -/

/-- Splits a name off a line. It begins with a letter or an underscore. -/
def name? (line : List Char) : Option (List Char × List Char) :=
  let belongs (c : Char) : Bool := c.isAlphanum || c = '_' || c = '.'
  match line with
  | [] => none
  | c :: _ =>
    if c.isAlpha || c = '_' then some (line.takeWhile belongs, line.dropWhile belongs) else none

/-- What comes after an equals sign. -/
def afterEquals? (line : List Char) : Option (List Char) :=
  match line with
  | '=' :: rest => some rest
  | _ => none

/-- Splits the name that is assigned to, and the equals sign, off a line. -/
def target? (line : List Char) : Option (List Char × List Char) := do
  let (first, rest) ← name? line
  let rest := Text.skipBlanks rest
  match afterEquals? rest with
  | some value => return (first, value)
  | none =>
    if first = "export".toList then
      let (name, rest) ← name? rest
      return (name, ← afterEquals? (Text.skipBlanks rest))
    else none

/-- Reads a line, which assigns a value to a name, is empty, or is in error. -/
def assignment? (vars : Variables) (line : List Char) : Option (Option (String × String)) := do
  let line := Text.trim line
  if line.isEmpty ∨ line.head? = some '#' then return none
  let (name, rest) ← target? line
  let rest := Text.skipBlanks rest
  let value ← if rest.head? = some '#' then some [] else value? vars (.plain false) rest
  return some (String.ofList name, String.ofList value)

/-- Sets the variables that are assigned in lines and not set yet, up to the first error. -/
def setAll (vars : Variables) : List (Option (List Char)) → Variables
  | [] | none :: _ => vars
  | some line :: rest =>
    match assignment? vars line with
    | none => vars
    | some none => setAll vars rest
    | some (some (name, value)) =>
      setAll (if (Table.get? vars name).isSome then vars else Table.insert vars name value) rest

/-- Sets the variables that are assigned in a file and not set yet. -/
def load (vars : Variables) (file : String) : Variables :=
  let text := match file.toList with
    | '\ufeff' :: rest => rest
    | text => text
  setAll vars (joinLines [] .plain (splitLines text))

example : load [("A", "1")] "A=2\nexport B = \"$A \x24\x7bA\x7d'\" # x\nC='$A\nB'\nD" =
    [("A", "1"), ("B", "1 1'"), ("C", "$A\nB")] := by decide +kernel

example : valueOf [("A", "k=v=w")] "A=k".toList = "v=w".toList := by decide +kernel
example : valueOf [("A", "k=v=w")] "A=v".toList = [] := by decide +kernel

/-! ## References -/

/-- The maximal runs of characters of a class in a text. -/
def runs (belongs : Char → Bool) (text : List Char) : List String :=
  ((text.splitOnP (!belongs ·)).filter (!·.isEmpty)).map String.ofList

/-- All names that a file may assign to or refer to, and some more. -/
def mentioned (file : String) : List String :=
  let text := file.toList
  runs Text.isAlphanumeric text
    ++ runs (fun c => c.isAlphanum || c = '_' || c = '.') text
    ++ runs (fun c => c != '{' && c != '}' && c != '=') text

end EnvFile

end Birthright
