import BuildQueue.Prog
import BuildQueue.Store.Call

/-!
# The ledger of states

The ledger moves jobs through the transition table. It keeps no state of its own: it asks the store,
one operation at a time, and posts every change of state that the store has accepted.
-/

namespace BuildQueue

/-- A change of state that the store has accepted. -/
structure Transition where
  key : JobKey
  state : QueueState
  previous : Option QueueState
  /-- Made because a newer push took the job's place. -/
  superseded : Bool
  deriving DecidableEq, Repr

/-- What a push did to the queue of a job. -/
structure PushOutcome where
  /-- The length of the queue afterwards. -/
  size : Nat
  cancelled : Option JobKey
  aborted : Option JobKey
  /-- The job was queued already and was left alone. -/
  duplicate : Bool
  deriving DecidableEq, Repr

/-- The names under which a deployment keeps its jobs, and how long a status lives. -/
structure Ledger where
  layout : KeyLayout
  /-- In milliseconds. -/
  ttl : Nat
  deriving DecidableEq, Repr

namespace Ledger

/-- What the ledger asks for: an operation of the store, or the posting of a transition. -/
inductive Request where
  | store (call : StoreCall)
  | post (transition : Transition)

/-- The store may fail; posting does not. -/
abbrev Reply : Request → Type
  | .store call => Except SchedulerError call.Answer
  | .post _ => Unit

abbrev interface : Interface := ⟨Request, Reply⟩

/-- A value, or what went wrong with the store. -/
abbrev Result (α : Type) := Except SchedulerError α

/-- Asks the store. -/
def ask (call : StoreCall) : Prog interface (Result call.Answer) :=
  .ask (I := interface) (.store call) .done

/-- Posts a transition. -/
def post (t : Transition) : Prog interface Unit := .ask (I := interface) (.post t) .done

/-- The state that a stored text stands for. -/
def readState : Option String → Except SchedulerError (Option QueueState)
  | some raw => (QueueState.parse raw).mapError .parse |>.map some
  | none => .ok none

/-- The current state of a job; `none` if it has expired or was never pushed. -/
def status (l : Ledger) (key : JobKey) : Prog interface (Result (Option QueueState)) := do
  match ← ask (.status (l.layout.status key)) with
  | .error e => return .error e
  | .ok raw => return readState raw

/-- The change of a job's status from one state to the next; a state that ends the job takes it out
of its queue in the same step. -/
def swapOf (l : Ledger) (key : JobKey) (current next : QueueState) : StatusSwap where
  job := key.text
  queue := l.layout.queue key
  expected := current.name
  next := next.name
  retire := next.isTerminal

/-- Moves a job to a state that the table allows, unless somebody else has changed its status since
it was read. -/
def apply (l : Ledger) (key : JobKey) (state : QueueState) (superseded : Bool) :
    Prog interface (Result Transition) := do
  let illegal (current : Option QueueState) : SchedulerError :=
    .illegalTransition key.text current state
  match ← l.status key with
  | .error e => return .error e
  | .ok none => return .error (illegal none)
  | .ok (some current) =>
    if current.canBecome state then
      match ← ask (.swap l.layout.pools (l.swapOf key current state) l.ttl) with
      | .error e => return .error e
      | .ok (.rejected raw) => return (readState raw).bind fun current => .error (illegal current)
      | .ok (.applied _) =>
        let t : Transition := ⟨key, state, some current, superseded⟩
        post t
        return .ok t
    else return .error (illegal (some current))

/-- Moves a job to a state on its own account. -/
def addState (l : Ledger) (key : JobKey) (state : QueueState) :
    Prog interface (Result Transition) :=
  l.apply key state false

/-- Moves a job out of the way of a newer one. That it could not be moved is nobody's error. -/
def supersede (l : Ledger) (job : Option JobKey) (state : QueueState) : Prog interface Unit := do
  match job with
  | none => return ()
  | some key =>
    let _ ← l.apply key state true
    return ()

/-- The job that a stored text names. -/
def readJob : Option String → Except SchedulerError (Option JobKey)
  | some raw => (JobKey.parse raw).mapError .parse |>.map some
  | none => .ok none

/-- The jobs that a push displaced, the waiting one and the running one. -/
def displaced (reply : PushReply) : Except SchedulerError (Option JobKey × Option JobKey) := do
  return (← readJob reply.cancelled, ← readJob reply.aborted)

/-- The state that a stored text stands for, or `none` if it stands for no state. -/
def readableState (raw : Option String) : Option QueueState :=
  match readState raw with
  | .ok state => state
  | .error _ => none

/-- Queues a job in place of whatever occupied its queue. -/
def push (l : Ledger) (key : JobKey) : Prog interface (Result PushOutcome) := do
  match ← ask (.push (l.layout.queue key) l.layout.pools key.text key.canonicalId l.ttl) with
  | .error e => return .error e
  | .ok reply =>
    if reply.duplicate then return .ok ⟨reply.size, none, none, true⟩
    post ⟨key, .queued, readableState reply.previous, false⟩
    match displaced reply with
    | .error e => return .error e
    | .ok (cancelled, aborted) =>
      l.supersede cancelled .cancelled
      l.supersede aborted .aborted
      return .ok ⟨reply.size, cancelled, aborted, false⟩

/-- Posts that jobs have been admitted, and gives back their keys. A job whose name is no key is
passed over. -/
def announce : List String → Prog interface (List JobKey)
  | [] => return []
  | raw :: rest =>
    match JobKey.parse raw with
    | .error _ => announce rest
    | .ok key => do
      post ⟨key, .starting, some .queued, false⟩
      return key :: (← announce rest)

/-- Admits waiting jobs until `max` jobs hold a slot. -/
def start (l : Ledger) (max : Nat) : Prog interface (Result (List JobKey)) := do
  match ← ask (.start l.layout.pools max l.ttl) with
  | .error e => return .error e
  | .ok reply => return .ok (← announce reply.admitted)

/-- A pool as it is. -/
def pool (l : Ledger) (which : Pool) : Prog interface (Result (List PoolEntry)) :=
  ask (.pool l.layout.pools which)

end Ledger

end BuildQueue
