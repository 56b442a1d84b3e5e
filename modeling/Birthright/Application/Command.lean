import Birthright.Text.Numeral

/-!
# Commands

What the application is asked to do on its command line: to verify one registration from a fixture,
or to serve requests, which is what it does without any arguments. It can also be asked for its
version and for help.

## Options

An option is given as `--name value` or as `--name=value`, at most once. A value in an argument of
its own does not begin with a hyphen, except when it is a hyphen alone. Two hyphens end the options,
and nothing may follow them, since no command takes anything else.

Arguments are read one after the other. Whoever asks for help after options that are in order gets
it, whatever comes next.
-/

namespace Birthright

/-- What help may be about. -/
inductive Topic where
  | application
  | serve
  | verify
  /-- The help itself. -/
  | help
  deriving DecidableEq, Repr

/-- What the application is asked to do. -/
inductive Command where
  | help (topic : Topic)
  | version
  | verify (fixtures registrationId : String) (asJson : Bool)
  | serve (host : Option String) (portNumber : Option UInt16) (fixtures : Option String)
  deriving DecidableEq, Repr

namespace Command

/-! ## Values -/

/-- What the value of an option is. -/
inductive ValueKind where
  | text
  /-- The name of a file, which is not empty. -/
  | path
  | portNumber
  deriving DecidableEq, Repr

/-- Reads a number with or without a sign as a port number. -/
def portNumber? (s : String) : Option UInt16 :=
  let number : Option Nat := match s.toList with
    | '-' :: rest => if rest.head? = some '+' then none else (Text.unsigned? rest).filter (· = 0)
    | s => Text.unsigned? s
  (number.filter (· < UInt16.size)).map UInt16.ofNat

/-- Whether a text is a value of a kind. -/
def ValueKind.accepts (kind : ValueKind) (s : String) : Bool :=
  match kind with
  | .text => true
  | .path => !s.isEmpty
  | .portNumber => (portNumber? s).isSome

/-! ## Kinds of commands -/

/-- An option, the kind of its value if it takes one, and what it is for. -/
structure OptionKind where
  name : String
  value? : Option ValueKind
  isRequired : Bool
  about : String

/-- A command with the options that it takes. -/
structure Kind where
  name : String
  about : String
  options : List OptionKind

/-- To serve requests. -/
def serveKind : Kind where
  name := "serve"
  about := "Start the HTTP service (default command)"
  options :=
    [⟨"host", some .text, false, "Override the configured host for the HTTP server"⟩,
     ⟨"port", some .portNumber, false, "Override the configured port for the HTTP server"⟩,
     ⟨"fixtures", some .path, false,
      "JSON fixture seeding the in-memory packet store and registry"⟩]

/-- To verify one registration. -/
def verifyKind : Kind where
  name := "verify"
  about := "Evaluate one registration from a fixture file and print the outcome"
  options :=
    [⟨"fixtures", some .path, true,
      "JSON fixture with registrations, registry identities, and NIN usage counts"⟩,
     ⟨"registration-id", some .text, true, "Registration to evaluate"⟩,
     ⟨"json", none, false, "Print the public status payload as JSON instead of a summary"⟩]

/-! ## Options -/

/-- Options that were given, with their values; an option without a value has an empty one. -/
abbrev Given : Type := List (String × String)

/-- Adds an option that was not given before. -/
def give? (given : Given) (name value : String) : Option Given :=
  if given.any (·.1 = name) then none else some (given ++ [(name, value)])

/-- The value of an option that was given. -/
def valueOf? (given : Given) (name : String) : Option String :=
  (given.find? (·.1 = name)).map (·.2)

/-- Splits an argument that is an option into its name and the value after an equals sign. -/
def optionParts? (argument : List Char) : Option (String × Option String) :=
  match argument with
  | '-' :: '-' :: rest =>
    let name := rest.takeWhile (· != '=')
    match rest.drop name.length with
    | [] => some (String.ofList name, none)
    | _ :: value => some (String.ofList name, some (String.ofList value))
  | _ => none

/-- Whether an argument can be the value of the option before it. -/
def isValue (argument : String) : Bool :=
  argument = "-" || argument.toList.head? != some '-'

/-- Whether an argument is the long name, or begins with the letter, after which nothing counts. -/
def asksFor (letter : Char) (name argument : String) : Bool :=
  argument = "--" ++ name || ['-', letter].isPrefixOf argument.toList

/-- What was given so far, and what may come next. -/
inductive OptionState where
  /-- Another option, or the end. -/
  | ready (given : Given)
  /-- The value of an option. -/
  | waiting (given : Given) (name : String) (kind : ValueKind)
  /-- Nothing more. -/
  | ended (given : Given)
  /-- Anything, since help has been asked for. -/
  | asked

/-- What was given after one more argument. -/
def OptionState.step? (options : List OptionKind) (state : OptionState) (argument : String) :
    Option OptionState :=
  let take? (given : Given) (name : String) (kind : ValueKind) (value : String) :=
    if kind.accepts value then (give? given name value).map ready else none
  match state with
  | .asked => some .asked
  | .ended _ => none
  | .waiting given name kind => if isValue argument then take? given name kind argument else none
  | .ready given =>
    if argument = "--" then some (.ended given)
    else if asksFor 'h' "help" argument then some .asked
    else do
      let (name, value) ← optionParts? argument.toList
      let option ← options.find? (·.name = name)
      match option.value?, value with
      | none, none => (give? given name "").map ready
      | none, some _ => none
      | some kind, some value => take? given name kind value
      | some kind, none => some (.waiting given name kind)

/-- Reads the arguments after the name of a command. -/
def ofOptions? (kind : Kind) (topic : Topic) (read? : Given → Option Command)
    (arguments : List String) : Option Command :=
  match arguments.foldlM (OptionState.step? kind.options) (.ready []) with
  | some (.ready given) | some (.ended given) => read? given
  | some .asked => some (.help topic)
  | _ => none

/-! ## Commands -/

/-- Reads the options of a verification. -/
def verify? (arguments : List String) : Option Command :=
  ofOptions? verifyKind .verify (fun given => do
    return .verify (← valueOf? given "fixtures") (← valueOf? given "registration-id")
      (valueOf? given "json").isSome) arguments

/-- Reads the options of a server. -/
def serve? (arguments : List String) : Option Command :=
  ofOptions? serveKind .serve (fun given =>
    some (.serve (valueOf? given "host") ((valueOf? given "port").bind portNumber?)
      (valueOf? given "fixtures"))) arguments

/-- Reads the names of what help is asked about. -/
def help? : List String → Option Command
  | [] => some (.help .application)
  | ["serve"] => some (.help .serve)
  | ["verify"] => some (.help .verify)
  | ["help"] => some (.help .help)
  | _ => none

/-- The command that arguments state, if they state one. -/
def ofArguments? : List String → Option Command
  | [] | ["--"] => some (.serve none none none)
  | "verify" :: rest => verify? rest
  | "serve" :: rest => serve? rest
  | "help" :: rest => help? rest
  | first :: _ =>
    if asksFor 'h' "help" first then some (.help .application)
    else if asksFor 'V' "version" first then some .version
    else none

/-- The file from which the command fills its collaborators. -/
def fixturePath? : Command → Option String
  | .help _ | .version => none
  | .verify fixtures _ _ => some fixtures
  | .serve _ _ fixtures => fixtures

example : ofArguments? ["verify", "--fixtures=f", "--json", "--registration-id", "7"]
    = some (.verify "f" "7" true) := by decide +kernel
example : ofArguments? ["serve", "--port", "-1"] = none := by decide +kernel
example : ofArguments? ["serve", "--port", "1", "-h", "no"] = some (.help .serve) := by
  decide +kernel

end Command

end Birthright
