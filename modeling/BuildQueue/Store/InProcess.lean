import BuildQueue.Store.Keys
import BuildQueue.Store.Reply
import Std.Data.TreeMap

/-!
# The store of one process

Queues, pools and statuses in memory. Each operation is one step from state to state. Time is the
store's own clock; a status is gone once its time has come. The times that order a pool are given
by the caller and have nothing to do with that clock.
-/

namespace BuildQueue

open Std (TreeMap)

/-- The state of the store. -/
structure InProcess where
  /-- Queues by name, head first. -/
  queues : TreeMap String (List String) := ∅
  /-- Pools by name: when each job joined. -/
  pools : TreeMap String (TreeMap String Int) := ∅
  /-- Tables by name: a text for each job. -/
  tables : TreeMap String (TreeMap String String) := ∅
  /-- Statuses by name, each with the time at which it expires. -/
  statuses : TreeMap String (String × Nat) := ∅
  /-- Milliseconds since the store was made. -/
  clock : Nat := 0

namespace InProcess

/-- The jobs of a queue, head first. -/
def queue (s : InProcess) (name : String) : List String := s.queues.getD name []

def setQueue (s : InProcess) (name : String) (jobs : List String) : InProcess :=
  { s with queues := s.queues.insert name jobs }

def poolMap (s : InProcess) (pool : String) : TreeMap String Int := s.pools.getD pool ∅

/-- When a job joined a pool. -/
def score? (s : InProcess) (pool job : String) : Option Int := (s.poolMap pool)[job]?

def join (s : InProcess) (pool job : String) (now : Int) : InProcess :=
  { s with pools := s.pools.insert pool ((s.poolMap pool).insert job now) }

def leave (s : InProcess) (pool job : String) : InProcess :=
  { s with pools := s.pools.insert pool ((s.poolMap pool).erase job) }

/-- The order of a pool: by time, and at one time by name. -/
def inOrder (a b : String × Int) : Bool := a.2 < b.2 || (a.2 = b.2 && a.1 ≤ b.1)

/-- The jobs of a pool in order, each with the time at which it joined. -/
def members (s : InProcess) (pool : String) : List (String × Int) :=
  (s.poolMap pool).toList.mergeSort inOrder

def table (s : InProcess) (name : String) : TreeMap String String := s.tables.getD name ∅

/-- The text that a table holds for a job. -/
def field? (s : InProcess) (table job : String) : Option String := (s.table table)[job]?

def setField (s : InProcess) (table job text : String) : InProcess :=
  { s with tables := s.tables.insert table ((s.table table).insert job text) }

def eraseField (s : InProcess) (table job : String) : InProcess :=
  { s with tables := s.tables.insert table ((s.table table).erase job) }

/-- A status, unless it has expired. -/
def status? (s : InProcess) (name : String) : Option String :=
  match s.statuses[name]? with
  | some (text, expiry) => if expiry ≤ s.clock then none else some text
  | none => none

def setStatus (s : InProcess) (name text : String) (ttl : Nat) : InProcess :=
  { s with statuses := s.statuses.insert name (text, s.clock + ttl) }

def advance (s : InProcess) (ms : Nat) : InProcess := { s with clock := s.clock + ms }

/-- Takes a job out of the ready pool and both tables. -/
def unlist (s : InProcess) (pools : PoolKeys) (job : String) : InProcess :=
  ((s.leave pools.ready job).eraseField pools.owners job).eraseField pools.labels job

/-- Makes the head of a queue ready if it is in neither pool. -/
def promote (s : InProcess) (queue : String) (pools : PoolKeys) (now : Int) : InProcess :=
  match (s.queue queue).head? with
  | none => s
  | some head =>
    if (s.score? pools.active head).isNone && (s.score? pools.ready head).isNone then
      s.join pools.ready head now
    else s

/-- Takes a job out of its queue and everything else, and lets the next one of the queue in. Says
whether the job held a slot. -/
def retire (s : InProcess) (queue : String) (pools : PoolKeys) (job : String) (now : Int) :
    Bool × InProcess :=
  let held := (s.score? pools.active job).isSome
  let s := (s.leave pools.active job).unlist pools job
  let s := s.setQueue queue ((s.queue queue).filter (· ≠ job))
  (held, s.promote queue pools now)

/-- Appends a job to its queue. Waiting jobs of the queue are put out; one that holds a slot stays
in front, and then the new job is not ready yet. -/
def push (s : InProcess) (queue : String) (pools : PoolKeys) (job label : String) (ttl : Nat)
    (now : Int) : PushReply × InProcess :=
  let entries := s.queue queue
  if entries.contains job then
    ({ size := entries.length, cancelled := none, aborted := none, duplicate := true,
       previous := none }, s)
  else
    let (running, waiting) := entries.partition fun e => (s.score? pools.active e).isSome
    let s := waiting.foldl (·.unlist pools ·) s
    let s := s.setQueue queue (running ++ [job])
    let s := (s.setField pools.owners job queue).setField pools.labels job label
    let s := if running.isEmpty then s.join pools.ready job now else s
    let previous := s.status? (pools.status job)
    ({ size := running.length + 1, cancelled := waiting.getLast?, aborted := running.getLast?,
       duplicate := false, previous },
      s.setStatus (pools.status job) QueueState.queued.name ttl)

/-- Goes through ready jobs until `capacity` of them have got a slot. A job whose status is not that
of a waiting one is dropped; `busy` are the queues that have a job at work. -/
def admitReady (pools : PoolKeys) (ttl : Nat) (now : Int) (s : InProcess) (capacity : Nat)
    (busy : List String) : List String → StartReply × InProcess
  | [] => (⟨[], []⟩, s)
  | job :: rest =>
    match capacity with
    | 0 => (⟨[], []⟩, s)
    | room + 1 =>
      let owner := s.field? pools.owners job
      if s.status? (pools.status job) ≠ some QueueState.queued.name then
        let s := match owner with
          | some queue => (s.retire queue pools job now).2
          | none => s.leave pools.ready job
        let (reply, s) := admitReady pools ttl now s (room + 1) busy rest
        ({ reply with stale := job :: reply.stale }, s)
      else if busy.contains (owner.getD job) then admitReady pools ttl now s (room + 1) busy rest
      else
        let s := (s.leave pools.ready job).join pools.active job now
        let s := s.setStatus (pools.status job) QueueState.starting.name ttl
        let (reply, s) := admitReady pools ttl now s room (owner.getD job :: busy) rest
        ({ reply with admitted := job :: reply.admitted }, s)

/-- Gives slots to ready jobs, oldest first, until `max` jobs hold one. -/
def start (s : InProcess) (pools : PoolKeys) (max ttl : Nat) (now : Int) :
    StartReply × InProcess :=
  let active := s.members pools.active
  admitReady pools ttl now s (max - active.length)
    (active.filterMap fun (job, _) => s.field? pools.owners job)
    ((s.members pools.ready).map Prod.fst)

/-- Changes the status of a job if it is the expected one. -/
def swap (s : InProcess) (pools : PoolKeys) (swap : StatusSwap) (ttl : Nat) (now : Int) :
    SwapReply × InProcess :=
  let name := pools.status swap.job
  let current := s.status? name
  if current ≠ some swap.expected then (.rejected current, s)
  else
    let s := s.setStatus name swap.next ttl
    if swap.retire then
      let (held, s) := s.retire swap.queue pools swap.job now
      (.applied held, s)
    else (.applied false, s)

/-- A pool as people see it. -/
def entries (s : InProcess) (pools : PoolKeys) (which : Pool) : List PoolEntry :=
  let pool := match which with
    | .ready => pools.ready
    | .active => pools.active
  (s.members pool).map fun (job, since) => ⟨job, s.field? pools.labels job, since⟩

end InProcess

end BuildQueue
