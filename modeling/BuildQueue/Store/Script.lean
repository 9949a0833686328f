import BuildQueue.Store.Database
import BuildQueue.Store.Keys
import BuildQueue.Job.State

/-!
# Scripts of the database

The operations on queues as scripts that the database runs in one step. A script deals in texts: the
empty text says that there is no job or no status, and `"1"` and `"0"` are the truth values.
-/

namespace BuildQueue.Script

/-- Takes a job out of everything, and makes the head of its queue ready if it is in neither pool.
Answers 1 if the job held a slot. -/
def retire (queue : String) (pools : PoolKeys) (job : String) (now : Int) (d : Database) :
    Nat × Database :=
  let (found, d) := d.zrem pools.active job
  let d := (d.zrem pools.ready job).2
  let d := d.lrem queue job
  let d := (d.hdel pools.owners job).hdel pools.labels job
  match d.lindex queue with
  | none => (found, d)
  | some head =>
    if (d.zscore pools.active head).isNone && (d.zscore pools.ready head).isNone then
      (found, d.zadd pools.ready head now)
    else (found, d)

/-- What a push found in the queue: the last job put out, and the last one that holds a slot. -/
structure Displaced where
  cancelled : String
  aborted : String

/-- Looks at the jobs of a queue one by one: one that holds a slot stays, any other is put out. -/
def displace (queue : String) (pools : PoolKeys) :
    List String → Displaced → Database → Displaced × Database
  | [], found, d => (found, d)
  | entry :: rest, found, d =>
    if (d.zscore pools.active entry).isSome then
      displace queue pools rest { found with aborted := entry } d
    else
      let d := (((d.lrem queue entry).zrem pools.ready entry).2.hdel pools.owners entry).hdel
        pools.labels entry
      displace queue pools rest { found with cancelled := entry } d

/-- Appends a job to its queue. Answers the queue's length, the job put out, the job superseded,
whether the job was there already, and its status before. -/
def push (queue : String) (pools : PoolKeys) (job label : String) (now : Int) (seconds : Nat)
    (d : Database) : List String × Database :=
  let entries := d.lrange queue
  if entries.contains job then ([toString entries.length, "", "", "1", ""], d)
  else
    let (found, d) := displace queue pools entries ⟨"", ""⟩ d
    let d := d.rpush queue job
    let d := (d.hset pools.owners job queue).hset pools.labels job label
    let d := if found.aborted = "" then d.zadd pools.ready job now else d
    let previous := (d.get (pools.status job)).getD ""
    let d := d.setEx (pools.status job) QueueState.queued.name seconds
    ([toString (d.llen queue), found.cancelled, found.aborted, "0", previous], d)

/-- What a start has done so far. -/
structure Progress where
  admitted : List String
  stale : List String
  busy : List String

/-- Goes through ready jobs until `capacity` have been admitted. -/
def admitReady (pools : PoolKeys) (capacity : Nat) (now : Int) (seconds : Nat) :
    List String → Progress → Database → Progress × Database
  | [], p, d => (p, d)
  | job :: rest, p, d =>
    if p.admitted.length ≥ capacity then (p, d)
    else
      let owner := d.hget pools.owners job
      if d.get (pools.status job) ≠ some QueueState.queued.name then
        let d := match owner with
          | some queue => (retire queue pools job now d).2
          | none => (d.zrem pools.ready job).2
        admitReady pools capacity now seconds rest { p with stale := p.stale ++ [job] } d
      else if p.busy.contains (owner.getD job) then admitReady pools capacity now seconds rest p d
      else
        let d := (d.zrem pools.ready job).2.zadd pools.active job now
        let d := d.setEx (pools.status job) QueueState.starting.name seconds
        admitReady pools capacity now seconds rest
          { p with admitted := p.admitted ++ [job], busy := owner.getD job :: p.busy } d

/-- Gives slots to ready jobs. Answers the jobs admitted and the jobs dropped. -/
def start (pools : PoolKeys) (max : Nat) (now : Int) (seconds : Nat) (d : Database) :
    (List String × List String) × Database :=
  let capacity := max - d.zcard pools.active
  if capacity = 0 then (([], []), d)
  else
    let busy := (d.zrange pools.active).filterMap fun (job, _) => d.hget pools.owners job
    let ready := (d.zrange pools.ready).map Prod.fst
    let (p, d) := admitReady pools capacity now seconds ready ⟨[], [], busy⟩ d
    ((p.admitted, p.stale), d)

/-- Changes a status if it is the expected one. Answers `"1"` and whether a retired job held a slot,
or `"0"` and the status as it is. -/
def swap (pools : PoolKeys) (queue job expected next : String) (seconds : Nat) (retired : Bool)
    (now : Int) (d : Database) : List String × Database :=
  match d.get (pools.status job) with
  | none => (["0", ""], d)
  | some current =>
    if current ≠ expected then (["0", current], d)
    else
      let d := d.setEx (pools.status job) next seconds
      let (found, d) := if retired then retire queue pools job now d else (0, d)
      (["1", toString found], d)

end BuildQueue.Script
