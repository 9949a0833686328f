import BuildQueue.Json.Basic
import BuildQueue.Ledger
import BuildQueue.Text.Timestamp

/-!
# Looking at the queue

What the command line prints about a job and about the pools.
-/

namespace BuildQueue.Cli

/-- Why a command failed: what it was doing, and what went wrong. -/
structure Failure where
  context : Option String
  cause : String
  deriving DecidableEq, Repr

/-- The failure on one line. -/
def Failure.message (f : Failure) : String :=
  match f.context with
  | some context => context ++ ": " ++ f.cause
  | none => f.cause

def Failure.ofStore (e : SchedulerError) : Failure := ⟨none, e.message⟩

/-- What is printed about the state of a job. -/
def renderState (key : JobKey) : Option QueueState → String
  | some state => key.canonicalId ++ " " ++ state.name ++ "\n"
  | none => key.canonicalId ++ " unknown (never queued or expired)\n"

/-- Prints the state of a job. -/
def status (l : Ledger) (key : String) : Prog Ledger.interface (Except Failure String) := do
  match JobKey.parse key with
  | .error e => return .error ⟨some "Invalid job key", (DomainError.parse e).message⟩
  | .ok key =>
    match ← l.status key with
    | .error e => return .error (.ofStore e)
    | .ok state => return .ok (renderState key state)

/-- A text filled up with blanks to a width. -/
def padRight (width : Nat) (s : String) : String :=
  s ++ String.ofList (List.replicate (width - s.length) ' ')

/-- An entry of a pool on one line: its label, or its job if it has none, and its time. -/
def renderEntry (e : PoolEntry) : String :=
  "  " ++ padRight 40 (e.label.getD e.job) ++ " since " ++ Text.Timestamp.display e.since ++ "\n"

def renderPool (name : String) (entries : List PoolEntry) : String :=
  name ++ " (" ++ toString entries.length ++ ")\n" ++ String.join (entries.map renderEntry)

def entryForm (e : PoolEntry) : Json :=
  .record [("job", .text e.job), ("label", .option .text e.label),
    ("since", .text (Text.Timestamp.display e.since))]

/-- What is printed about the pools, in words or as JSON. -/
def renderPools (json : Bool) (ready active : List PoolEntry) : String :=
  if json then
    (Json.record [("active", .array (active.map entryForm)),
      ("ready", .array (ready.map entryForm))]).pretty ++ "\n"
  else renderPool "active" active ++ renderPool "ready" ready

/-- Prints both pools. -/
def pools (l : Ledger) (json : Bool) : Prog Ledger.interface (Except Failure String) := do
  match ← l.pool .ready with
  | .error e => return .error (.ofStore e)
  | .ok ready =>
    match ← l.pool .active with
    | .error e => return .error (.ofStore e)
    | .ok active => return .ok (renderPools json ready active)

end BuildQueue.Cli
