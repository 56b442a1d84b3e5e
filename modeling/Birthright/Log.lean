import Birthright.Text.Numeral

/-!
# Log events

What is noted while a registration is processed: a level, a message and named texts. Numbers of
persons appear only in their masked form.
-/

namespace Birthright

/-- How much an event matters. -/
inductive Level where
  | debug
  | info
  | warn
  | error
  deriving DecidableEq, Repr

namespace Level

/-- The name of a level. -/
def name : Level → String
  | .debug => "DEBUG"
  | .info => "INFO"
  | .warn => "WARN"
  | .error => "ERROR"

end Level

/-- Something that was noted. -/
structure Event where
  level : Level
  message : String
  fields : List (String × String)
  deriving DecidableEq, Repr

/-- The text of a number in a log. -/
def logNat (n : Nat) : String := String.ofList (Text.decimal n)

/-- The text of an integer in a log. -/
def logInt (n : Int) : String := String.ofList (Text.decimalInt n)

end Birthright
