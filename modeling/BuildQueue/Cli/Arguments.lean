import BuildQueue.Text.After

/-!
# Command lines

A command line may name a configuration, and then names one command with what it takes. Everything
after two dashes alone is taken as it stands; anything else that starts with a dash is an option.
-/

namespace BuildQueue.Cli

inductive Command where
  | status (key : String)
  | pools (json : Bool)
  | validate (path : String)
  deriving DecidableEq, Repr

/-- A command, and the configuration it works with. -/
structure Invocation where
  config : String
  command : Command
  deriving DecidableEq, Repr

def defaultConfig : String := "keel.kdl"

/-- The environment variable that names the configuration if no option does. -/
def configVariable : String := "KEEL_CONFIG"

/-- Whether a word is an option. A dash alone is none. -/
def isOption (word : String) : Bool := word.toList.head? = some '-' && word ≠ "-"

/-- The words that a command takes: each of the options at most once, and anything else in order;
`none` if there is another option. -/
def words? (options : List String) : List String → Option (List String × List String)
  | [] => some ([], [])
  | "--" :: rest => some ([], rest)
  | word :: rest =>
    if isOption word then
      if options.contains word then
        (words? (options.erase word) rest).map fun (given, plain) => (word :: given, plain)
      else none
    else (words? options rest).map fun (given, plain) => (given, word :: plain)

namespace Command

/-- Reads a command after its name. -/
def parse? (name : String) (args : List String) : Option Command :=
  match name with
  | "status" =>
    match words? [] args with
    | some (_, [key]) => some (status key)
    | _ => none
  | "pools" =>
    match words? ["--json"] args with
    | some (given, []) => some (pools (!given.isEmpty))
    | _ => none
  | "validate" =>
    match words? [] args with
    | some (_, []) => some (validate defaultConfig)
    | some (_, [path]) => some (validate path)
    | _ => none
  | _ => none

end Command

/-- The configuration that an option at the front names, and what follows it. -/
def splitConfig? : List String → Option (Option String × List String)
  | "--config" :: value :: rest => if isOption value then none else some (some value, rest)
  | word :: rest =>
    match Text.after? "--config=" word with
    | some value => some (some value, rest)
    | none => some (none, word :: rest)
  | [] => none

/-- Reads a command line; `preset` is the configuration that the environment names. -/
def Invocation.parse? (preset : Option String) (args : List String) : Option Invocation :=
  match splitConfig? args with
  | some (given, name :: rest) =>
    (Command.parse? name rest).map fun command =>
      ⟨(given.or preset).getD defaultConfig, command⟩
  | _ => none

end BuildQueue.Cli
