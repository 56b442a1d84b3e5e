import Birthright.Regular.Expression

/-!
# Log filters

A filter says what is logged. It is a list of directives with commas between them; a directive is a
level, or a target, or a target, a span or fields with a level after an equals sign:
`warn,registry=debug,[lookup]=trace`. Whatever is no level where no level is needed is a target.
A span may have a field in braces, and the field a value after an equals sign, which is a number or
a regular expression.

A filter is only checked here, not applied.
-/

namespace Birthright.LogFilter

/-- The names of the levels, from none to all. -/
def levelNames : List String := ["off", "error", "warn", "info", "debug", "trace"]

/-- Whether a text is a level: a name in any case, the number of one, or nothing at all. -/
def isLevel (s : List Char) : Bool :=
  s.isEmpty || (Text.unsigned? s).any (· < levelNames.length)
    || levelNames.any (·.toList = s.map Char.toLower)

/-! ## Fields -/

/-- Whether a text is a number of decimal digits, with or without a point and an exponent. -/
def isDecimal (s : List Char) : Bool :=
  let (whole, rest) := Text.splitDigits s
  let (fraction, rest) := match rest with
    | '.' :: rest => Text.splitDigits rest
    | _ => ([], rest)
  let isExponent : List Char → Bool
    | [] => true
    | c :: rest =>
      let digits := match rest with
        | '+' :: digits | '-' :: digits => digits
        | _ => rest
      c ∈ ['e', 'E'] && !digits.isEmpty && digits.all Char.isDigit
  !(whole ++ fraction).isEmpty && isExponent rest

/-- The words that stand for numbers. -/
def numberWords : List String := ["inf", "infinity", "nan"]

/--
Whether a text is the value of a field. Numbers are regular expressions, unless they begin with a
plus sign.
-/
def isValue : List Char → Bool
  | '+' :: s => isDecimal s || numberWords.any (·.toList = s.map Char.toLower)
  | s => Regular.isExpression s

/-- Whether a text is a field. What is behind a second equals sign does not count. -/
def isField (s : List Char) : Bool :=
  match s.splitOn '=' with
  | _ :: value :: _ => isValue value
  | _ => !s.isEmpty

/-! ## Directives -/

/-- The characters of a text with the bytes that are in front of them and `n` more. -/
def positions (n : Nat) : List Char → List (Nat × Char)
  | [] => []
  | c :: s => (n, c) :: positions (n + c.utf8Size) s

/-- The part of a text from one position up to another. -/
def between (first last : Nat) (s : List Char) : List Char :=
  ((positions 0 s).filter fun p => first ≤ p.1 && p.1 < last).map (·.2)

/-- Where in a directive a character is. -/
inductive Place where
  | start
  /-- In a target, or in a level that stands alone. -/
  | target
  /-- In the name of a span. -/
  | span
  /-- In a field that begins at a position. -/
  | field (first : Nat)
  /-- After the fields of a span. -/
  | fields
  /-- After a span. -/
  | closed
  /-- In the level, with its characters so far, the last one first. -/
  | level (done : List Char)
  deriving DecidableEq, Repr

namespace Place

/-- Whether a directive may begin with a character. -/
def mayBegin (c : Char) : Bool := c ∈ ['-', ':', '_'] || Text.isAlphanumeric c

/--
The place after one more character at a position. A field is looked up in the given text, which has
blanks in front if the directive has.
-/
def step? (text : List Char) : Place → Nat × Char → Option Place
  | .start, (_, '[') => some .span
  | .start, (_, c) => if mayBegin c then some .target else none
  | .target, (_, '=') => some (.level [])
  | .target, (_, '[') => some .span
  | .target, _ => some .target
  | .span, (_, ']') => some .closed
  | .span, (n, '\x7b') => some (.field (n + 1))
  | .span, _ => some .span
  | .field first, (n, '\x7d') => if isField (between first n text) then some .fields else none
  | .field first, _ => some (.field first)
  | .fields, (_, ']') => some .closed
  | .closed, (_, '=') => some (.level [])
  | .level done, (_, c) => some (.level (c :: done))
  | _, _ => none

/-- Whether a directive may end here, when there are blanks around it or not. -/
def mayEnd (hasBlanks : Bool) : Place → Bool
  | .target | .closed => true
  | .level done => !hasBlanks && isLevel done.reverse
  | _ => false

end Place

/-- Whether a text is a directive. Blanks around it count as part of a level that it ends with. -/
def isDirective (s : List Char) : Bool :=
  let bare := Text.trim s
  ((positions 0 bare).foldlM (Place.step? s) .start).any (Place.mayEnd (bare ≠ s))

/-- Whether a text is a filter. Empty directives are passed over. -/
def isValid (s : String) : Bool :=
  ((s.toList.splitOn ',').filter (!·.isEmpty)).all isDirective

example : isValid "info,,registry=DEBUG,[lookup\x7bnin\x7d]=2,store=" = true := by decide +kernel
example : isValid "registry=loud" = false := by decide +kernel
example : isValid "[lookup\x7bnin=*\x7d]" = false := by decide +kernel

end Birthright.LogFilter
