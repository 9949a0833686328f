import BuildQueue.Job.Key

/-!
# Names of the shared structures

One deployment keeps its structures in a store under names that start with its own name:

* `<name>:ready` and `<name>:active`, the pools of jobs that wait for and hold a slot,
* `<name>:owners` and `<name>:labels`, the queue and the label of each queued job,
* `<name>:status:<job>`, the state of a job,
* `<name>:<source id>:<source path>:local:<queue id>`, the queue of one competition group.
-/

namespace BuildQueue

open Text (Percent.encode)

/-- The names that all queues of a deployment share. -/
structure PoolKeys where
  ready : String
  active : String
  owners : String
  labels : String
  /-- Put before a job to name its status. -/
  statusRoot : String
  deriving DecidableEq, Repr

/-- The name of a job's status. -/
def PoolKeys.status (pools : PoolKeys) (job : String) : String := pools.statusRoot ++ job

/-- The names of one deployment. -/
structure KeyLayout where
  root : String
  deriving DecidableEq, Repr

namespace KeyLayout

def pools (layout : KeyLayout) : PoolKeys where
  ready := layout.root ++ ":ready"
  active := layout.root ++ ":active"
  owners := layout.root ++ ":owners"
  labels := layout.root ++ ":labels"
  statusRoot := layout.root ++ ":status:"

def status (layout : KeyLayout) (key : JobKey) : String := layout.pools.status key.text

/-- The queue that a job shares with its competitors. -/
def queue (layout : KeyLayout) (key : JobKey) : String :=
  layout.root ++ ":" ++ Percent.encode key.source.id ++ ":" ++ Percent.encode key.source.path ++
    ":local:" ++ key.queueId

end KeyLayout

end BuildQueue
