import BuildQueue.Cli.Arguments
import BuildQueue.Cli.Queue
import BuildQueue.Config.Document

/-!
# Running commands

A command asks for files, for a connection to the store, and for operations of the store it is
connected to. It only reads: what the ledger posts is dropped.
-/

namespace BuildQueue.Cli

/-- What a command asks for. -/
inductive Request where
  | read (path : String)
  | connect (url : String)
  | store (call : StoreCall)

abbrev Reply : Request → Type
  | .read _ => Except ReadFault (List UInt8)
  | .connect _ => Bool
  | .store call => Except SchedulerError call.Answer

abbrev interface : Interface := ⟨Request, Reply⟩

def read (path : String) : Prog interface (Except ReadFault (List UInt8)) :=
  .ask (I := interface) (.read path) .done

def connect (url : String) : Prog interface Bool := .ask (I := interface) (.connect url) .done

/-- What a command leaves behind. -/
structure Report where
  exit : UInt8
  output : String
  errors : String := ""
  deriving DecidableEq, Repr

namespace Report

def ofFailure (f : Failure) : Report where
  exit := 1
  output := ""
  errors := "Error: " ++ match f.context with
    | some context => context ++ "\n\nCaused by:\n    " ++ f.cause ++ "\n"
    | none => f.cause ++ "\n"

def ofResult : Except Failure String → Report
  | .ok output => { exit := 0, output }
  | .error f => ofFailure f

/-- What is left behind by a command line that asks for nothing. -/
def usage : Report where
  exit := 2
  output := ""
  errors := "Usage: keel [--config FILE] status KEY | pools [--json] | validate [FILE]\n"

end Report

/-- Reads a configuration from a file. -/
def load (path : String) : Prog interface (Except ConfigError SystemConfig) := do
  match ← read path with
  | .error fault => return .error (.unreadable path fault)
  | .ok bytes =>
    match Text.Utf8.decode bytes with
    | .error _ => return .error (.unreadable path .notText)
    | .ok cs => return SystemConfig.parse (String.ofList cs)

def renderRepository (p : RepositoryPolicy) : String :=
  "  repository " ++ p.source.display ++ (if p.active then " (active)" else " (inactive)") ++ "\n"

/-- What is printed about a configuration. -/
def renderConfig (c : SystemConfig) : String :=
  "Configuration is valid\n" ++
    "  coordinator: prefix `" ++ c.coordinator.keyRoot ++ "`, concurrency " ++
    toString c.coordinator.concurrency ++ ", status ttl " ++
    toString (c.coordinator.statusTtl.seconds / 3600) ++ "h\n" ++
    String.join (c.repositories.map renderRepository)

/-- Prints what a configuration says, or what is wrong with it. -/
def validate (path : String) : Prog interface Report := do
  match ← load path with
  | .ok c => return { exit := 0, output := renderConfig c }
  | .error e => return { exit := 1, output := "Configuration error: " ++ e.message ++ "\n" }

/-- The store of a configuration that names none. -/
def defaultStore : String := "redis://127.0.0.1:6379"

/-- Asks for what the ledger asks for, except that nobody hears of transitions. -/
def serveLedger : (r : Ledger.Request) → Prog interface (Ledger.Reply r)
  | .store call => .ask (I := interface) (.store call) .done
  | .post _ => .done ()

/-- Runs a program of the ledger against the store that is connected. -/
def onStore {α : Type} (p : Prog Ledger.interface α) : Prog interface α := p.substitute serveLedger

/-- The ledger of a configuration, connected to its store. -/
def openLedger (path : String) : Prog interface (Except Failure Ledger) := do
  match ← load path with
  | .error e => return .error ⟨some ("Failed to load config file: " ++ path), e.message⟩
  | .ok c =>
    let url := c.coordinator.storeUrl.getD defaultStore
    if ← connect url then
      return .ok ⟨⟨c.coordinator.keyRoot⟩, c.coordinator.statusTtl.milliseconds⟩
    else return .error ⟨some ("Failed to connect to " ++ url), "no connection"⟩

/-- Prints something about the queue of a configuration. -/
def inspect (config : String)
    (print : Ledger → Prog Ledger.interface (Except Failure String)) : Prog interface Report := do
  match ← openLedger config with
  | .error f => return .ofFailure f
  | .ok l => return .ofResult (← onStore (print l))

/-- Runs a command. -/
def Invocation.run (i : Invocation) : Prog interface Report :=
  match i.command with
  | .status key => inspect i.config (status · key)
  | .pools json => inspect i.config (pools · json)
  | .validate path => validate path

/-- Runs a command line; `preset` is the configuration that the environment names. -/
def run (preset : Option String) (args : List String) : Prog interface Report :=
  match Invocation.parse? preset args with
  | some i => i.run
  | none => return .usage

end BuildQueue.Cli
