import Birthright.Json.Text
import Birthright.Json.Written
import Birthright.Text.LowerCase

/-!
# Labels on a form

Choices on a form are stored as lists of entries, one for each language, and the first entry
counts. Labels are compared by their words, and without regard to case.
-/

namespace Birthright

/--
The value of the first entry in a list such as `[{"language":"eng","value":"Acholi"}]`. A number
or a truth value counts as its text. Later entries are not looked at.
-/
def firstValue? (raw : String) : Option String :=
  match Json.ofText raw with
  | some (.arr (entry :: _)) =>
    match entry.member? "value" with
    | some (.str s) => some s
    | some (.bool b) => some (Json.bool b).text
    | some (.int n) => some (Json.int n).text
    | some (.float x) => some (Json.float x).text
    | _ => none
  | _ => none

/-- A label in the form in which labels are compared: its words in lower case, one space apart. -/
def plainLabel (label : String) : List Char := Text.lower (Text.squeeze label.toList)

example : firstValue? "[\x7b\"value\":\"Payira\"\x7d, 7]" = some "Payira" := by decide +kernel

end Birthright
