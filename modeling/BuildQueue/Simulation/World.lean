import BuildQueue.Cli.Queue
import BuildQueue.Serializer
import BuildQueue.Simulation.Script
import BuildQueue.Worker

/-!
# Tasks over time

A simulated process: tasks that run programs against a store, scripted surroundings and a serializer.
Time is virtual and moves only when every task waits. A task runs until it waits for time, for its
turn or for nothing more; tasks that can go on do so first in, first out, and timers of one instant
go off in the order in which they were set. The main task stands outside of the line: it goes on
first after time has moved, and otherwise when nobody is in line or a batch of tasks has gone on.
-/

namespace BuildQueue.Simulation

open Std (TreeMap)

/-- What a task may ask for besides what handlers ask for. -/
inductive Control where
  /-- Wait. -/
  | pause (ms : Nat)
  /-- Report to the orchestrator as the executor does. -/
  | send (outcome : JobOutcome)

abbrev interface : Interface := Interface.sum Orchestrator.interface ⟨Control, fun _ => Unit⟩

/-- What a task comes to. -/
inductive Result where
  | unit
  | pushed (outcome : PushOutcome)
  | keys (keys : List JobKey)
  | transition (t : Transition)
  | state (state : Option QueueState)
  | entries (entries : List PoolEntry)
  | texts (texts : List String)
  | text (text : String)
  | count (n : Nat)
  | version (v : Version)
  | many (results : List Result)
  | failed (e : SchedulerError)
  | commandFailed (f : Cli.Failure)
  deriving Inhabited

namespace Result

def ofExcept {α : Type} (f : α → Result) : Except SchedulerError α → Result
  | .ok a => f a
  | .error e => failed e

end Result

/-- A program of the simulation. -/
abbrev Program := Prog interface Result

/-- A task: what it has still to do, and, if it handles events until there are none, how many it has
taken. -/
structure Task where
  program : Program
  settling : Option Nat := none

/-- Who goes on next: a task, or the worker that hands events to tasks of their own. -/
inductive Turn where
  | task (n : Nat)
  | worker
  deriving DecidableEq

/-- A plan to let calls of the store fail: how many to let through, and how many then fail. -/
structure Outage where
  call : String
  skip : Nat
  times : Nat

structure World where
  /-- The time of day at the start, in milliseconds. -/
  epoch : Int := 0
  store : InProcess := {}
  pushLatency : Nat := 0
  statusLatency : Nat := 0
  outages : List Outage := []
  script : Script := []
  version : Version := ⟨1, 3, 2⟩
  serializer : Serializer := {}
  tasks : TreeMap Nat Task := ∅
  results : TreeMap Nat Result := ∅
  /-- The number of the next task. -/
  next : Nat := 0
  ready : List Turn := []
  /-- The main task, and whether it can go on. -/
  main : Option Nat := none
  mainReady : Bool := false
  /-- The timers in the order in which they were set: time and task. -/
  timers : List (Nat × Nat) := []
  mailbox : Mailbox := {}
  /-- Whether a worker takes events as they come. -/
  worker : Bool := false
  transitionsOpen : Bool := true
  outcomesOpen : Bool := true
  /-- Whether anybody listens to the ledger. -/
  listening : Bool := true
  /-- What the ledger posted, last first. -/
  posted : List Transition := []
  /-- The calls and log entries, last first. -/
  calls : List (List String) := []

namespace World

/-- Milliseconds since the start. -/
def elapsed (w : World) : Nat := w.store.clock

/-- The time of day. -/
def now (w : World) : Int := w.epoch + w.elapsed

/-- Lets a task or the worker go on. -/
def enqueue (w : World) (t : Turn) : World :=
  if w.main.any (t = .task ·) then { w with mainReady := true }
  else if w.ready.contains t then w
  else { w with ready := w.ready ++ [t] }

/-- Starts a task. -/
def spawn (w : World) (program : Program) : Nat × World :=
  (w.next, { w with
    tasks := w.tasks.insert w.next { program }
    next := w.next + 1
    ready := w.ready ++ [.task w.next] })

/-- Starts the main task. -/
def spawnMain (w : World) (task : Task) : Nat × World :=
  (w.next, { w with
    tasks := w.tasks.insert w.next task
    next := w.next + 1
    main := some w.next
    mainReady := true })

def setTimer (w : World) (ms n : Nat) : World :=
  { w with timers := w.timers ++ [(w.elapsed + ms, n)] }

/-- There is something for the worker to take. -/
def wakeWorker (w : World) : World := if w.worker then w.enqueue .worker else w

def post (w : World) (t : Transition) : World :=
  let w := if w.listening then { w with posted := t :: w.posted } else w
  if w.listening && w.transitionsOpen then
    { w with mailbox := w.mailbox.post t }.wakeWorker
  else w

def send (w : World) (o : JobOutcome) : World :=
  if w.outcomesOpen then { w with mailbox := w.mailbox.report o }.wakeWorker else w

def record (w : World) (call : List String) : World := { w with calls := call :: w.calls }

/-- What becomes of a request: an answer at once, an answer after some time, or an answer when the
task gets its turn. -/
inductive Served (β : Type) where
  | now (b : β)
  | later (ms : Nat) (b : β)
  | inTurn (b : β)

def Served.after {β : Type} (ms : Nat) (b : β) : Served β := if ms = 0 then .now b else .later ms b

/-- Counts a call of the store against the plan for it; says whether the call fails. -/
def checkOutage (name : String) : List Outage → Bool × List Outage
  | [] => (false, [])
  | o :: rest =>
    if o.call = name then
      if 0 < o.skip then (false, { o with skip := o.skip - 1 } :: rest)
      else if 0 < o.times then (true, { o with times := o.times - 1 } :: rest)
      else (false, o :: rest)
    else
      let (failed, rest) := checkOutage name rest
      (failed, o :: rest)

/-- How long the reply to a call of the store takes to arrive. -/
def latency (w : World) : StoreCall → Nat
  | .push .. => w.pushLatency
  | .status _ => w.statusLatency
  | _ => 0

def serveStore (w : World) (c : StoreCall) : Served (Except SchedulerError c.Answer) × World :=
  let (failed, outages) := checkOutage c.name w.outages
  let w := { w with outages }
  if failed then (.now (.error (.malformedReply (.scripted c.name))), w)
  else
    let (answer, store) := w.store.perform w.now c
    (.after (w.latency c) (.ok answer), { w with store })

def serveCall (w : World) (c : Call) : Served (Except DomainError c.Answer) × World :=
  let w := w.record (c.name :: c.arguments)
  let (reply, script) := w.script.take c
  (.after reply.delay (reply.answer w.version c), { w with script })

/-- A task that makes one call and is done. -/
def callProgram (c : Call) : Program :=
  .ask (I := interface) (.inl (.inr (.call c))) fun _ => .done .unit

/-- The line that an entry of the build log leaves in the record. -/
def logLine (e : LogEntry) : List String :=
  ["log", e.level.name, e.message, e.source.display, e.canonicalId]

/-- Serves a request of task `n`. -/
def serve (n : Nat) (w : World) : (r : interface.Request) → Served (interface.Reply r) × World
  | .inl (.inl (.store c)) => w.serveStore c
  | .inl (.inl (.post t)) => (.now (), w.post t)
  | .inl (.inr (.acquire key)) =>
    let serializer := w.serializer.arrive n key
    (if serializer.hasTurn n then .now () else .inTurn (), { w with serializer })
  | .inl (.inr .release) =>
    let (woken, serializer) := w.serializer.leave n
    let w := { w with serializer }
    (.now (), match woken with
      | some m => w.enqueue (.task m)
      | none => w)
  | .inl (.inr (.call c)) => w.serveCall c
  | .inl (.inr (.log entry)) => (.now (), w.record (logLine entry))
  | .inl (.inr (.background c)) => (.now (), (w.spawn (callProgram c)).2)
  | .inr (.pause ms) => (.after ms (), w)
  | .inr (.send outcome) => (.now (), w.send outcome)

/-- Lets a program of task `n` go on until it is done or has to wait; then it says what is left. -/
def follow (n : Nat) : Program → World → (Program ⊕ Result) × World
  | .done a, w => (.inr a, w)
  | .ask r next, w =>
    match w.serve n r with
    | (.now x, w) => follow n (next x) w
    | (.later ms x, w) => (.inl (next x), w.setTimer ms n)
    | (.inTurn x, w) => (.inl (next x), w)

/-- Takes the next event as the program that handles it. -/
def nextEvent (o : Orchestrator) (w : World) : Option (Program × World) :=
  w.mailbox.take?.map fun (event, mailbox) =>
    ((o.handle event).bind (fun _ => .done Result.unit) |>.inl, { w with mailbox })

/-- Hands all events to tasks of their own. -/
def dispatch (o : Orchestrator) : Nat → World → World
  | 0, w => w
  | fuel + 1, w =>
    match w.nextEvent o with
    | some (program, w) => dispatch o fuel (w.spawn program).2
    | none => w

/-- Task `n` goes on. The main task may handle events until there are none; then it takes the next
one at once. -/
def resume (o : Orchestrator) (n : Nat) (w : World) : World :=
  match w.tasks[n]? with
  | none => w
  | some task =>
    match follow n task.program w with
    | (.inl program, w) => { w with tasks := w.tasks.insert n { task with program } }
    | (.inr result, w) =>
      match task.settling with
      | none => { w with tasks := w.tasks.erase n, results := w.results.insert n result }
      | some handled =>
        match w.nextEvent o with
        | some (program, w) =>
          { w with
            tasks := w.tasks.insert n ⟨program, some (handled + 1)⟩
            mainReady := true }
        | none =>
          { w with tasks := w.tasks.erase n, results := w.results.insert n (.count handled) }

/-- Whoever is first in line goes on. -/
def turn (o : Orchestrator) (w : World) : Turn → World
  | .task n => w.resume o n
  | .worker => dispatch o w.mailbox.size w

/-- Lets the timers go off whose time has come, by their times. -/
def fire (w : World) : World :=
  let (due, later) := w.timers.partition (·.1 ≤ w.elapsed)
  (due.mergeSort fun a b => a.1 ≤ b.1).foldl (fun w d => w.enqueue (.task d.2))
    { w with timers := later }

/-- Moves time to the next timer; `none` when there is none. -/
def advance? (w : World) : Option World :=
  (w.timers.map Prod.fst).min?.map fun t =>
    { w with store := w.store.advance (t - w.elapsed) }.fire

/-- How many tasks go on before the main task has a chance again. -/
def batch : Nat := 61

/-- Lets everything go on until it waits, and time move until all of `awaited` are done; `left` is
how many tasks may go on before the main task has a chance. -/
def runUntil (o : Orchestrator) (awaited : List Nat) : Nat → Nat → World → World
  | 0, _, w => w
  | fuel + 1, 0, w =>
    match w.mainReady, w.main with
    | true, some n =>
      let w := { w with mainReady := false }.resume o n
      runUntil o awaited fuel (if w.mainReady then 0 else batch) w
    | _, _ => runUntil o awaited fuel batch w
  | fuel + 1, left + 1, w =>
    match w.ready with
    | t :: rest => runUntil o awaited fuel left ({ w with ready := rest }.turn o t)
    | [] =>
      if w.mainReady then runUntil o awaited fuel 0 w
      else if awaited.all fun n => w.results.contains n then w
      else
        match w.advance? with
        | some w => runUntil o awaited fuel 0 w
        | none => w

end World

end BuildQueue.Simulation
