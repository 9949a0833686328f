import BuildQueue.Simulation.World

/-!
# Sessions

A session is a row of operations on one simulated process. After each operation everything goes on
that can go on without time passing.
-/

namespace BuildQueue.Simulation

/-- Reports that a session can bring to the orchestrator: those of the executor and that of the
watchdog. -/
inductive Report where
  | executor (kind : OutcomeKind)
  | timeout
  deriving DecidableEq

/-- An operation. Keys, states, commits and kinds of release come as texts, and a text that cannot
be read is the operation's result. -/
inductive Op where
  | push (key : String)
  | start (max : Nat)
  | addState (key state : String)
  | status (key : String)
  | pool (which : Pool)
  | queue (key : String)
  /-- Move time at once, past all timers. -/
  | advance (ms : Nat)
  /-- Wait while timers go off at their times. -/
  | sleep (ms : Nat)
  | fail (outage : Outage)
  /-- Nobody listens to the ledger any more. -/
  | close
  /-- Operations as tasks of their own, each after some time. -/
  | join (ops : List (Nat × Op))
  | printStatus (key : String)
  | printPools (json : Bool)
  | update (source : Source) (id target commit message : String) (error : Option String)
  | gitPush (source : Source) (ref commit : String)
  | gitDelete (source : Source)
  | release (source : Source) (branch bump : String)
  /-- Handle events, one at a time, until there are none. -/
  | settle
  | outcome (kind : OutcomeKind) (key : String)
  | report (report : Report) (key : String)
  | transition (key state : String) (previous : Option String) (superseded : Bool)
  | closeOutcomes
  | closeTransitions
  deriving Inhabited

structure Session where
  orchestrator : Orchestrator
  world : World
  /-- The keys that operations have named. -/
  known : List JobKey := []

namespace Session

variable (s : Session)

/-- A program of the ledger as a task. -/
def ofLedger {α : Type} (p : Prog Ledger.interface (Except SchedulerError α)) (f : α → Result) :
    Program :=
  (Orchestrator.ofLedger p).inl.bind fun r => .done (.ofExcept f r)

/-- A handler as a task. -/
def ofHandler (p : Orchestrator.Handler (Except SchedulerError Unit)) : Program :=
  p.inl.bind fun r => .done (.ofExcept (fun _ => .unit) r)

def ofEvent (p : Orchestrator.Handler Unit) : Program := p.inl.bind fun _ => .done .unit

def ofCommand (p : Prog Ledger.interface (Except Cli.Failure String)) : Program :=
  (Orchestrator.ofLedger p).inl.bind fun
    | .ok text => .done (.text text)
    | .error f => .done (.commandFailed f)

/-- Goes on with what a text was read as. -/
def reading {α : Type} (read : Except ParseError α) (f : α → Program) : Program :=
  match read with
  | .ok a => f a
  | .error e => .done (.failed (.parse e))

def pause (ms : Nat) (p : Program) : Program :=
  if ms = 0 then p else .ask (I := interface) (.inr (.pause ms)) fun _ => p

def send (o : JobOutcome) : Program :=
  .ask (I := interface) (.inr (.send o)) fun _ => .done .unit

def readOptional : Option String → Except ParseError (Option QueueState)
  | some text => (QueueState.parse text).map some
  | none => .ok none

/-- The handler of a report. -/
def handle (key : JobKey) : Report → Orchestrator.Handler Unit
  | .executor kind => s.orchestrator.onOutcome ⟨kind, key⟩
  | .timeout => s.orchestrator.onTimeout key

/-- What an operation does as a task. -/
def program : Op → Program
  | .push key => reading (JobKey.parse key) fun key =>
    ofLedger (s.orchestrator.ledger.push key) .pushed
  | .start max => ofLedger (s.orchestrator.ledger.start max) .keys
  | .addState key state => reading (JobKey.parse key) fun key =>
    reading (QueueState.parse state) fun state =>
      ofLedger (s.orchestrator.ledger.addState key state) .transition
  | .status key => reading (JobKey.parse key) fun key =>
    ofLedger (s.orchestrator.ledger.status key) .state
  | .pool which => ofLedger (s.orchestrator.ledger.pool which) .entries
  | .queue key => reading (JobKey.parse key) fun key =>
    .done (.texts (s.world.store.queue (s.orchestrator.ledger.layout.queue key)))
  | .sleep ms => pause ms (.done .unit)
  | .printStatus key => ofCommand (Cli.status s.orchestrator.ledger key)
  | .printPools json => ofCommand (Cli.pools s.orchestrator.ledger json)
  | .update source id target commit message error => reading (CommitId.parse commit) fun commit =>
    ofHandler (s.orchestrator.onUpdate ⟨source, id, target, commit⟩ message error)
  | .gitPush source ref commit => reading (CommitId.parse commit) fun commit =>
    match GitRef.ofFull? ref with
    | some ref => ofHandler (s.orchestrator.onPush source ref commit)
    | none => .done .unit
  | .gitDelete source => ofHandler (Orchestrator.onDelete source)
  | .release source branch bump => reading (Bump.parse bump) fun bump =>
    (s.orchestrator.releaseNow source branch bump).inl.bind fun
      | .ok v => .done (.version v)
      | .error e => .done (.failed (.domain e))
  | .outcome kind key => reading (JobKey.parse key) fun key => send ⟨kind, key⟩
  | .report report key => reading (JobKey.parse key) fun key => ofEvent (s.handle key report)
  | .transition key state previous superseded => reading (JobKey.parse key) fun key =>
    reading (QueueState.parse state) fun state =>
      reading (readOptional previous) fun previous =>
        ofEvent (s.orchestrator.onTransition ⟨key, state, previous, superseded⟩)
  | _ => .done .unit

/-- The keys that an operation names. -/
def named : Op → List JobKey
  | .push key | .addState key _ | .status key | .queue key | .outcome _ key | .report _ key
  | .transition key _ _ _ => (JobKey.parse key).toOption.toList
  | .update source id target commit _ _ =>
    ((CommitId.parse commit).toOption.map fun c => ⟨source, .update id target, c⟩).toList
  | .gitPush source ref commit =>
    match GitRef.ofFull? ref, CommitId.parse commit with
    | some (.branch name), .ok c => [⟨source, .branch name, c⟩]
    | _, _ => []
  | _ => []

/-- A bound on the turns that one operation takes. -/
def maxTurns : Nat := 1000000

/-- Lets everything go on until some tasks are done. -/
def runUntil (awaited : List Nat) (world : World) : World :=
  world.runUntil s.orchestrator awaited maxTurns 0

/-- Runs programs as tasks until they are done, and gives their results. -/
def runAll (programs : List Program) : List Result × Session :=
  let (ids, world) := programs.foldl (fun (ids, w) p =>
    let (n, w) := w.spawn p
    (ids ++ [n], w)) (([] : List Nat), s.world)
  let world := s.runUntil ids world
  (ids.map fun n => (world.results[n]?).getD .unit, { s with world })

/-- Runs the main task until it is done. -/
def runMain (task : Task) : Result × Session :=
  let (n, world) := s.world.spawnMain task
  let world := s.runUntil [n] world
  ((world.results[n]?).getD .unit, { s with world := { world with main := none } })

/-- Lets everything go on without time passing. -/
def idle : Session := { s with world := s.runUntil [] s.world }

def know (ops : List Op) : Session :=
  { s with known := s.known ++ ((ops.flatMap named).filter fun k => !s.known.contains k) }

/-- The operations that are run, also those inside a join. -/
def parts : Op → List (Nat × Op)
  | .join ops => ops
  | op => [(0, op)]

/-- Performs an operation. -/
def perform (op : Op) : Result × Session :=
  let s := s.know ((parts op).map Prod.snd)
  let w := { s.world with posted := [], calls := [] }
  let s := { s with world := w }
  match op with
  | .advance ms =>
    (.unit, { s with world := { w with store := w.store.advance ms }.fire }.idle)
  | .fail outage =>
    (.unit, { s with
      world := { w with outages := outage :: w.outages.filter (·.call ≠ outage.call) } }.idle)
  | .close => (.unit, { s with world := { w with listening := false } }.idle)
  | .closeOutcomes => (.unit, { s with world := { w with outcomesOpen := false } }.idle)
  | .closeTransitions => (.unit, { s with world := { w with transitionsOpen := false } }.idle)
  | .settle => s.runMain ⟨.done .unit, some 0⟩
  | .join ops =>
    let (results, s) := s.runAll (ops.map fun (delay, op) => pause delay (s.program op))
    (.many results, s)
  | op => s.runMain ⟨s.program op, none⟩

/-- Whether the worker has stopped, which it does when it can get no more events. -/
def stopped : Bool := !s.world.transitionsOpen && !s.world.outcomesOpen

/-- The stored status of each key that operations have named. -/
def statuses : List (String × Option String) :=
  s.known.map fun k => (k.text, s.world.store.status? (s.orchestrator.ledger.layout.status k))

/-- A pool of the deployment as it is. -/
def pool (which : Pool) : List PoolEntry :=
  s.world.store.entries s.orchestrator.ledger.layout.pools which

end Session

end BuildQueue.Simulation
