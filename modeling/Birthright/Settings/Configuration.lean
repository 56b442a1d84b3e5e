import Birthright.Eligibility.Rules
import Birthright.Settings.Address
import Birthright.Settings.EnvFile
import Birthright.Settings.LogFilter

/-!
# Configuration

All settings come from variables, and each of them has a default. Numbers and truth values have to
be readable; the first that is not is reported, in the order of the fields. The host and the log
filter are checked only when they are needed.
-/

namespace Birthright

/-- What the program runs for. -/
inductive Environment where
  | development
  | test
  | production
  deriving DecidableEq, Repr

/-- How log lines look. -/
inductive LogFormat where
  | compact
  | pretty
  deriving DecidableEq, Repr

/-- All settings. -/
structure Configuration where
  environment : Environment
  host : String
  portNumber : UInt16
  logLevel : String
  logFormat : LogFormat
  rules : Rules
  usageLimit : UInt32
  deriving DecidableEq, Repr

/-- Why there is no configuration, or no address to listen at. -/
inductive ConfigurationFailure where
  | invalidPort
  | invalidHost
  | invalidValue (variableName value : String)
  deriving DecidableEq, Repr

namespace ConfigurationFailure

/-- What is said about a setting that cannot be used. -/
def message : ConfigurationFailure → String
  | .invalidPort => "APP_PORT must be a valid u16"
  | .invalidHost => "APP_HOST must parse to an IPv4 or IPv6 address"
  | .invalidValue variableName value => variableName ++ " has an invalid value '" ++ value ++ "'"

/-- What was wrong in itself, if more can be said about it. -/
def cause? : ConfigurationFailure → Option String
  | .invalidHost => some "invalid IP address syntax"
  | .invalidPort | .invalidValue _ _ => none

end ConfigurationFailure

/-- A label without the blanks around it and with small letters, of those that are in ASCII. -/
def labelWord (s : String) : String := String.ofList ((Text.trim s.toList).map Char.toLower)

/-- The environment that a label names. -/
def Environment.ofLabel (s : String) : Environment :=
  match labelWord s with
  | "prod" | "production" => .production
  | "test" | "ci" => .test
  | _ => .development

/-- The log format that a label names. -/
def LogFormat.ofLabel (s : String) : LogFormat :=
  match labelWord s with
  | "pretty" => .pretty
  | _ => .compact

namespace Configuration

/-- How often a number may be cited unless another limit is set. -/
def standardUsageLimit : UInt32 := 5

/-- Reads a number of 32 bits. -/
def word? (s : List Char) : Option UInt32 := (Text.unsignedBelow? UInt32.size s).map UInt32.ofNat

/-- Reads one of the words `true` and `false`. -/
def truth? (s : List Char) : Option Bool :=
  if s = "true".toList then some true else if s = "false".toList then some false else none

/-- Reads a variable; blanks around its value do no harm. -/
def setting {α : Type} (vars : Variables) (name : String) (standard : α)
    (read : List Char → Option α) : Except ConfigurationFailure α :=
  match Table.get? vars name with
  | none => .ok standard
  | some value =>
    match read (Text.trim value.toList) with
    | some a => .ok a
    | none => .error (.invalidValue name value)

/-- Reads a port number; blanks around it are an error. -/
def portNumber? (s : List Char) : Option UInt16 :=
  (Text.unsignedBelow? UInt16.size s).map UInt16.ofNat

/-- The names of all variables that are settings. -/
def variableNames : List String :=
  ["APP_ENV", "APP_HOST", "APP_PORT", "APP_LOG_LEVEL", "APP_LOG_FORMAT", "RUST_LOG",
   "CITIZENSHIP_DATE_FORMAT", "CITIZENSHIP_PARENT_MIN_AGE_GAP",
   "CITIZENSHIP_GRANDPARENT_MIN_AGE_GAP", "CITIZENSHIP_ENFORCE_COLLATERAL_CONCORDANCE",
   "CITIZENSHIP_NIN_USAGE_LIMIT"]

/-- The configuration that variables state. -/
def ofVariables (vars : Variables) : Except ConfigurationFailure Configuration := do
  let text (name standard : String) : String := (Table.get? vars name).getD standard
  let portNumber ← match portNumber? (text "APP_PORT" "3000").toList with
    | some n => Except.ok n
    | none => .error .invalidPort
  return {
    environment := .ofLabel (text "APP_ENV" "development")
    host := text "APP_HOST" "127.0.0.1"
    portNumber := portNumber
    logLevel := text "APP_LOG_LEVEL" "info"
    logFormat := .ofLabel (text "APP_LOG_FORMAT" "compact")
    rules := {
      datePattern := text "CITIZENSHIP_DATE_FORMAT" Rules.standard.datePattern
      parentGap :=
        ← setting vars "CITIZENSHIP_PARENT_MIN_AGE_GAP" Rules.standard.parentGap word?
      grandparentGap :=
        ← setting vars "CITIZENSHIP_GRANDPARENT_MIN_AGE_GAP" Rules.standard.grandparentGap word?
      collateralLineageDecides :=
        ← setting vars "CITIZENSHIP_ENFORCE_COLLATERAL_CONCORDANCE"
          Rules.standard.collateralLineageDecides truth? }
    usageLimit := ← setting vars "CITIZENSHIP_NIN_USAGE_LIMIT" standardUsageLimit word? }

/-- The address that a host and a port number make up. -/
def addressOf (host : String) (portNumber : UInt16) : Except ConfigurationFailure SocketAddress :=
  match IpAddress.ofHost? host with
  | some address => .ok ⟨address, portNumber⟩
  | none => .error .invalidHost

/-- The address to listen at. -/
def address (c : Configuration) : Except ConfigurationFailure SocketAddress :=
  addressOf c.host c.portNumber

end Configuration

/-! ## Logging -/

/-- Why nothing can be logged. -/
inductive LoggingFailure where
  | invalidFilter (value : String)
  | alreadySet (cause : String)
  deriving DecidableEq, Repr

/-- What is said when nothing can be logged. -/
def LoggingFailure.message : LoggingFailure → String
  | .invalidFilter value =>
    "invalid log level/filter '" ++ value ++ "': unable to build EnvFilter"
  | .alreadySet cause => "telemetry error: " ++ cause

/-- The filter of the log: a variable of its own goes before the configured level if it is valid. -/
def LogFilter.choose (vars : Variables) (logLevel : String) : Except LoggingFailure String :=
  match (Table.get? vars "RUST_LOG").filter isValid with
  | some filter => .ok filter
  | none => if isValid logLevel then .ok logLevel else .error (.invalidFilter logLevel)

end Birthright
