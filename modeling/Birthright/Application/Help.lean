import Birthright.Application.Command

/-!
# Help

What the application says about its commands. A page of help states what a command does and how it
is called, and then lists what can be given to it. The descriptions in a list stand beside the
names, from one column on; but where the names take more than two fifths of a line and there is a
description that does not fit into the rest, all of them stand below the names.
-/

namespace Birthright

namespace Topic

open Command (Kind OptionKind)

/-- The name by which the application is called. -/
def programName : String := "regproc-citizenship-api"

/-- How many characters a line has room for. -/
def lineWidth : Nat := 100

/-- A number of spaces. -/
def spaces (n : Nat) : String := String.ofList (List.replicate n ' ')

/-- A list of names with their descriptions. -/
def listing (entries : List (String × String)) : String :=
  let longest := (entries.map (·.1.length)).foldl max 0
  let taken := longest + 8
  let isBelow := 2 * lineWidth < 5 * taken && entries.any (lineWidth < taken + ·.2.length)
  String.join <| entries.map fun (name, about) =>
    if isBelow then spaces 2 ++ name ++ "\n" ++ spaces 10 ++ about ++ "\n"
    else spaces 2 ++ name ++ spaces (longest + 2 - name.length) ++ about ++ "\n"

/-- A page of help, with the lists under their headings. -/
def page (about usage : String) (lists : List (String × List (String × String))) : String :=
  about ++ "\n\nUsage: " ++ programName ++ " " ++ usage ++ "\n"
    ++ String.join (lists.map fun (heading, entries) => "\n" ++ heading ++ ":\n" ++ listing entries)

/-- How an option is written, with a word in capitals for its value. -/
def optionUsage (option : OptionKind) : String :=
  let word := option.name.map fun c => if c = '-' then '_' else c.toUpper
  "--" ++ option.name ++ (if option.value?.isSome then " <" ++ word ++ ">" else "")

/-- How a command is written; options that it can do without have no names here. -/
def commandUsage (kind : Kind) : String :=
  let required := kind.options.filter (·.isRequired)
  String.intercalate " " <|
    [kind.name] ++ (if required.length < kind.options.length then ["[OPTIONS]"] else [])
      ++ required.map optionUsage

/-- The option that every command has. -/
def helpEntry : String × String := ("-h, --help", "Print help")

/-- The page about a command. -/
def commandPage (kind : Kind) : String :=
  let entries := kind.options.map fun option => (spaces 4 ++ optionUsage option, option.about)
  page kind.about (commandUsage kind) [("Options", entries ++ [helpEntry])]

/-- What the help is for. -/
def helpAbout : String := "Print this message or the help of the given subcommand(s)"

/-- The page about a topic. -/
def text : Topic → String
  | .application =>
    let commands := [Command.serveKind, Command.verifyKind].map fun kind => (kind.name, kind.about)
    page "Run or exercise the citizenship-by-birth verification stage" "[COMMAND]"
      [("Commands", commands ++ [("help", helpAbout)]),
       ("Options", [helpEntry, ("-V, --version", "Print version")])]
  | .serve => commandPage Command.serveKind
  | .verify => commandPage Command.verifyKind
  | .help =>
    page helpAbout "help [COMMAND]..."
      [("Arguments", [("[COMMAND]...", "Print help for the subcommand(s)")])]

example : listing [("-a", "one"), ("--bcd", "two")] = "  -a     one\n  --bcd  two\n" := by
  decide +kernel

end Topic

end Birthright
