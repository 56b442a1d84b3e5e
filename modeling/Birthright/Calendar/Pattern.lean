import Birthright.Calendar.Reading
import Birthright.Text.Blank
import Birthright.Text.Numeral

/-!
# Date patterns

A pattern is a text with directives such as `%Y` and `%d`; each directive stands for a fact about
the date. A date is read with a pattern by reading its directives one after the other; blanks in
the pattern stand for any number of blanks, and all else stands for itself.

Facts about the time of day are read and checked like the others, and then ignored.
-/

namespace Birthright.Calendar

open Text (isBlank skipBlanks)

/-! ## Numbers -/

/-- The directives that stand for a number. -/
inductive Figure where
  | year
  | century
  | yearOfCentury
  | weekYear
  | weekYearOfCentury
  | quarter
  | month
  | day
  | ordinal
  | weekFromSunday
  | weekFromMonday
  | isoWeek
  /-- The day of the week, from 0 for Sunday. -/
  | dayFromSunday
  /-- The day of the week, from 1 for Monday. -/
  | dayFromMonday
  | hour
  /-- The hour on a clock face, from 1 to 12. -/
  | clockHour
  | minute
  | second
  | nanosecond
  | timestamp
  deriving DecidableEq, Repr

namespace Figure

/-- How many digits may be read when there is no sign. -/
def width : Figure → Option Nat
  | .year | .weekYear => some 4
  | .ordinal => some 3
  | .quarter | .dayFromSunday | .dayFromMonday => some 1
  | .nanosecond => some 9
  | .timestamp => none
  | _ => some 2

/-- Whether a sign may be written; any number of digits follows it. -/
def isSigned : Figure → Bool
  | .year | .weekYear => true
  | _ => false

/-- The greatest year that a text can state; the least is one further from zero. -/
def greatestYear : Int := 2147483647

/-- The greatest number that a text can state; the least is one further from zero. -/
def greatestNumber : Int := 9223372036854775807

/-- The facts that a number states; none when it is out of range. -/
def facts? (f : Figure) (v : Int) : Option (List (Field × Int)) :=
  let within (low high : Int) (field : Field) : Option (List (Field × Int)) :=
    if low ≤ v ∧ v ≤ high then some [(field, v)] else none
  match f with
  | .year => within (-greatestYear - 1) greatestYear .year
  | .century => within 0 99 .century
  | .yearOfCentury => within 0 99 .yearOfCentury
  | .weekYear => within (-greatestYear - 1) greatestYear .weekYear
  | .weekYearOfCentury => within 0 99 .weekYearOfCentury
  | .quarter => within 1 4 .quarter
  | .month => within 1 12 .month
  | .day => within 1 31 .day
  | .ordinal => within 1 366 .ordinal
  | .weekFromSunday => within 0 53 .weekFromSunday
  | .weekFromMonday => within 0 53 .weekFromMonday
  | .isoWeek => within 1 53 .isoWeek
  | .dayFromSunday => if 0 ≤ v ∧ v ≤ 6 then some [(.weekday, (v + 6) % 7)] else none
  | .dayFromMonday => if 1 ≤ v ∧ v ≤ 7 then some [(.weekday, v - 1)] else none
  | .hour =>
    if 0 ≤ v ∧ v ≤ 23 then some [(.halfOfDay, v / 12), (.hourOfHalf, v % 12)] else none
  | .clockHour => if 1 ≤ v ∧ v ≤ 12 then some [(.hourOfHalf, v % 12)] else none
  | .minute => within 0 59 .minute
  | .second => within 0 60 .second
  | .nanosecond => within 0 999999999 .nanosecond
  | .timestamp => within (-greatestNumber - 1) greatestNumber .timestamp

end Figure

/-- Reads one or more digits, at most `width` of them, as a number up to the greatest. -/
def number? (width : Option Nat) (s : List Char) : Option (Int × List Char) :=
  let all := s.takeWhile Char.isDigit
  let digits := match width with
    | some w => all.take w
    | none => all
  let v := Text.digitsValue digits
  if digits.isEmpty ∨ Figure.greatestNumber < v then none else some (v, s.drop digits.length)

/-- Reads a number with or without a sign. -/
def signedNumber? (width : Option Nat) : List Char → Option (Int × List Char)
  | '-' :: s => (number? none s).map fun r => (-r.1, r.2)
  | '+' :: s => number? none s
  | s => number? width s

/-! ## Names -/

/-- The months in their order. -/
def monthNames : List String :=
  ["january", "february", "march", "april", "may", "june", "july", "august", "september",
   "october", "november", "december"]

/-- The days of the week in their order. -/
def weekdayNames : List String :=
  ["monday", "tuesday", "wednesday", "thursday", "friday", "saturday", "sunday"]

/-- What follows the given small letters, written in either case. -/
def afterLetters? (letters s : List Char) : Option (List Char) :=
  if (s.take letters.length).map Char.toLower = letters then some (s.drop letters.length) else none

/--
Reads one of the names by its first three letters, and the rest of the name too where it follows
and `long` allows it; also the place of the name.
-/
def name? (names : List String) (long : Bool) (s : List Char) : Option (Nat × List Char) :=
  names.zipIdx.findSome? fun (name, i) => do
    let rest ← afterLetters? (name.toList.take 3) s
    let whole := if long then afterLetters? (name.toList.drop 3) rest else none
    return (i, whole.getD rest)

/-! ## Times -/

/-- The nanoseconds that up to nine digits after a point stand for. -/
def fractionValue (digits : List Char) : Nat :=
  Text.digitsValue (digits ++ List.replicate (9 - digits.length) '0')

/--
Reads the digits of a fraction of a second, as nanoseconds: `n` of them, or as many as there are,
of which those after the ninth do not count.
-/
def nanoseconds? (n : Option Nat) (s : List Char) : Option (Int × List Char) :=
  match n with
  | some n =>
    let digits := s.take n
    if digits.length = n ∧ digits.all Char.isDigit then some (fractionValue digits, s.drop n)
    else none
  | none =>
    let (digits, rest) := Text.splitDigits s
    if digits.isEmpty then none else some (fractionValue (digits.take 9), rest)

/--
Reads the distance from universal time in hours and minutes, as seconds. Where `lenient` is set
the text may end after the hours, and `Z` stands for no distance; where `zulu` is set only the
latter holds.
-/
def offset? (zulu lenient : Bool) (s : List Char) : Option (Int × List Char) := do
  let digits? (greatest : Char) (s : List Char) : Option (Int × List Char) :=
    match s with
    | a :: b :: rest =>
      if a.isDigit ∧ a ≤ greatest ∧ b.isDigit then some (Text.digitsValue [a, b], rest) else none
    | _ => none
  match s with
  | 'Z' :: rest | 'z' :: rest => if zulu ∨ lenient then some (0, rest) else none
  | sign :: rest =>
    let direction ←
      if sign = '+' then some 1 else if sign = '-' ∨ sign = '\u2212' then some (-1) else none
    let (hours, rest) ← digits? '9' rest
    let rest := rest.dropWhile fun c => c = ':' || isBlank c
    let (minutes, rest) ← if lenient ∧ rest.isEmpty then some (0, rest) else digits? '5' rest
    return (direction * (hours * 3600 + minutes * 60), rest)
  | [] => none

/-! ## Directives -/

/-- The parts of a pattern. -/
inductive Item where
  /-- The character itself. -/
  | literal (c : Char)
  /-- Any of the characters. -/
  | oneOf (cs : List Char)
  /-- Any number of blanks. -/
  | blanks
  | figure (f : Figure)
  | monthName (long : Bool)
  | weekdayName (long : Bool)
  /-- `am` or `pm`, in letters of either case. -/
  | halfOfDay
  /-- A point and a fraction of a second, of `n` digits if a number is given; or nothing. -/
  | fraction (n : Option Nat)
  /-- A fraction of a second in a fixed number of digits. -/
  | fractionDigits (n : Nat)
  /-- A distance from universal time. -/
  | offset (lenient : Bool)
  /-- `UTC` in letters of either case, `Z`, or a distance from universal time. -/
  | zone
  /-- The name of a time zone, which is not looked at. -/
  | zoneName
  deriving DecidableEq, Repr

namespace Item

/-- Reads an item; also the text after it. -/
def read? (r : Reading) (s : List Char) : Item → Option (Reading × List Char)
  | .literal c =>
    match s with
    | d :: rest => if c = d then some (r, rest) else none
    | [] => none
  | .oneOf cs =>
    match s with
    | d :: rest => if d ∈ cs then some (r, rest) else none
    | [] => none
  | .blanks => some (r, skipBlanks s)
  | .figure f => do
    let s := skipBlanks s
    let (v, rest) ← if f.isSigned then signedNumber? f.width s else number? f.width s
    return (← r.stateAll? (← f.facts? v), rest)
  | .monthName long => do
    let (i, rest) ← name? monthNames long s
    return (← r.state? .month (i + 1 : Nat), rest)
  | .weekdayName long => do
    let (i, rest) ← name? weekdayNames long s
    return (← r.state? .weekday i, rest)
  | .halfOfDay => do
    let (i, rest) ← name? ["am", "pm"] false s
    return (← r.state? .halfOfDay i, rest)
  | .fraction n =>
    match s with
    | '.' :: s => do
      let (v, rest) ← nanoseconds? n s
      return (← r.state? .nanosecond v, rest)
    | _ => some (r, s)
  | .fractionDigits n => do
    let (v, rest) ← nanoseconds? (some n) s
    return (← r.state? .nanosecond v, rest)
  | .offset lenient => do
    let (v, rest) ← offset? false lenient (skipBlanks s)
    return (← r.state? .offset v, rest)
  | .zone => do
    let s := skipBlanks s
    let (v, rest) ←
      match afterLetters? ['u', 't', 'c'] s with
      | some rest => some (0, rest)
      | none => offset? true false s
    return (← r.state? .offset v, rest)
  | .zoneName => some (r, s.dropWhile fun c => !isBlank c)

/-- Reads items one after the other. -/
def readAll? (items : List Item) (r : Reading) (s : List Char) : Option (Reading × List Char) :=
  items.foldlM (fun (r, s) item => item.read? r s) (r, s)

/-- Year, month and day with hyphens between them, and blanks where they do no harm. -/
def plainDate : List Item :=
  [.figure .year, .blanks, .literal '-', .figure .month, .blanks, .literal '-', .figure .day]

/-- Hour, minute and second with colons between them, a fraction and a zone. -/
def plainTime : List Item :=
  [.figure .hour, .blanks, .literal ':', .figure .minute, .blanks, .literal ':', .figure .second,
   .fraction none, .blanks, .zone]

/-- A date and a time, apart by a letter or a space. -/
def timestamp : List Item := plainDate ++ [.oneOf ['T', 't', ' ']] ++ plainTime

end Item

/-- The directives of one letter that stand for a number. -/
def figureOf? : Char → Option Figure
  | 'Y' => some .year
  | 'C' => some .century
  | 'y' => some .yearOfCentury
  | 'G' => some .weekYear
  | 'g' => some .weekYearOfCentury
  | 'q' => some .quarter
  | 'm' => some .month
  | 'd' | 'e' => some .day
  | 'j' => some .ordinal
  | 'U' => some .weekFromSunday
  | 'W' => some .weekFromMonday
  | 'V' => some .isoWeek
  | 'w' => some .dayFromSunday
  | 'u' => some .dayFromMonday
  | 'H' | 'k' => some .hour
  | 'I' | 'l' => some .clockHour
  | 'M' => some .minute
  | 'S' => some .second
  | 'f' => some .nanosecond
  | 's' => some .timestamp
  | _ => none

/-- Month, day and the last two digits of the year, with strokes between them. -/
def strokedDate : List Item :=
  [.figure .month, .literal '/', .figure .day, .literal '/', .figure .yearOfCentury]

/-- Hour, minute and second with colons between them. -/
def clock (hours : Figure) : List Item :=
  [.figure hours, .literal ':', .figure .minute, .literal ':', .figure .second]

/-- What a directive of one letter stands for. -/
def directive? (c : Char) : Option (List Item) :=
  match figureOf? c with
  | some f => some [.figure f]
  | none =>
    match c with
    | 'b' | 'h' => some [.monthName false]
    | 'B' => some [.monthName true]
    | 'a' => some [.weekdayName false]
    | 'A' => some [.weekdayName true]
    | 'p' | 'P' => some [.halfOfDay]
    | 'D' | 'x' => some strokedDate
    | 'F' =>
      some [.figure .year, .literal '-', .figure .month, .literal '-', .figure .day]
    | 'v' =>
      some [.figure .day, .literal '-', .monthName false, .literal '-', .figure .year]
    | 'R' => some [.figure .hour, .literal ':', .figure .minute]
    | 'T' | 'X' => some (clock .hour)
    | 'r' => some (clock .clockHour ++ [.blanks, .halfOfDay])
    | 'c' =>
      some ([.weekdayName false, .blanks, .monthName false, .blanks, .figure .day, .blanks]
        ++ clock .hour ++ [.blanks, .figure .year])
    | '+' => some Item.timestamp
    | 'Z' => some [.zoneName]
    | 'z' => some [.offset false]
    | 'n' | 't' => some [.blanks]
    | '%' => some [.literal '%']
    | _ => none

/-- The items of a pattern; none when it has a directive that stands for nothing. -/
def items? : List Char → Option (List Item)
  | [] => some []
  | '%' :: '.' :: 'f' :: s => (items? s).map (.fraction none :: ·)
  | '%' :: '.' :: '3' :: 'f' :: s => (items? s).map (.fraction (some 3) :: ·)
  | '%' :: '.' :: '6' :: 'f' :: s => (items? s).map (.fraction (some 6) :: ·)
  | '%' :: '.' :: '9' :: 'f' :: s => (items? s).map (.fraction (some 9) :: ·)
  | '%' :: '3' :: 'f' :: s => (items? s).map (.fractionDigits 3 :: ·)
  | '%' :: '6' :: 'f' :: s => (items? s).map (.fractionDigits 6 :: ·)
  | '%' :: '9' :: 'f' :: s => (items? s).map (.fractionDigits 9 :: ·)
  | '%' :: ':' :: 'z' :: s => (items? s).map (.offset false :: ·)
  | '%' :: ':' :: ':' :: 'z' :: s => (items? s).map (.offset false :: ·)
  | '%' :: ':' :: ':' :: ':' :: 'z' :: s => (items? s).map (.offset false :: ·)
  | '%' :: '#' :: 'z' :: s => (items? s).map (.offset true :: ·)
  | '%' :: c :: d :: s =>
    if c = '-' ∨ c = '_' ∨ c = '0' then do
      let f ← figureOf? d
      return .figure f :: (← items? s)
    else do return (← directive? c) ++ (← items? (d :: s))
  | ['%', c] => directive? c
  | ['%'] => none
  | c :: s => (items? s).map ((if isBlank c then .blanks else .literal c) :: ·)

/-- Reads a whole text with a pattern. -/
def dateOf? (pattern text : String) : Option Date := do
  let items ← items? pattern.toList
  match ← Item.readAll? items [] text.toList with
  | (r, []) => r.date?
  | _ => none

end Birthright.Calendar
