import BuildQueue.Job.State

/-!
# What a store is asked and answers
-/

namespace BuildQueue

/-- The two pools of a deployment. -/
inductive Pool where
  | ready
  | active
  deriving DecidableEq, Repr

/-- What a push did. -/
structure PushReply where
  /-- The length of the queue afterwards. -/
  size : Nat
  /-- The waiting job that the push put out of the queue. -/
  cancelled : Option String
  /-- The running job that the push supersedes; it stays until it is completed. -/
  aborted : Option String
  /-- The job was in the queue already, and nothing changed. -/
  duplicate : Bool
  /-- The status that the job had before. -/
  previous : Option String
  deriving DecidableEq, Repr

/-- What a start did. -/
structure StartReply where
  /-- The jobs that got a slot, oldest first. -/
  admitted : List String
  /-- The jobs that were dropped because their status was no longer that of a waiting job. -/
  stale : List String
  deriving DecidableEq, Repr

/-- A change of status that is made only if the status is still the expected one. -/
structure StatusSwap where
  job : String
  /-- The queue of the job. -/
  queue : String
  expected : String
  next : String
  /-- Take the job out of its queue as well. -/
  retire : Bool
  deriving DecidableEq, Repr

inductive SwapReply where
  /-- The status was changed; `wasActive` says whether a retired job still held a slot. -/
  | applied (wasActive : Bool)
  /-- The status was another one, and nothing changed. -/
  | rejected (current : Option String)
  deriving DecidableEq, Repr

/-- A job in a pool. -/
structure PoolEntry where
  job : String
  label : Option String
  /-- When the job joined the pool, in milliseconds. -/
  since : Int
  deriving DecidableEq, Repr

/-- Why an answer of a store cannot be understood. -/
inductive MalformedReply where
  | pushFields (count : Nat)
  | pushSize (text : String)
  | swapFields (count : Nat)
  /-- Made up by a script of failures. -/
  | scripted (call : String)
  deriving DecidableEq, Repr

def MalformedReply.message : MalformedReply → String
  | pushFields count => "push returned " ++ toString count ++ " fields"
  | pushSize text => "push size " ++ Text.Quoted.quote text
  | swapFields count => "swap returned " ++ toString count ++ " fields"
  | scripted call => "scripted " ++ call

/-- What goes wrong between the scheduler and its store. -/
inductive SchedulerError where
  /-- The transition table has no way from a job's status to a state. -/
  | illegalTransition (key : String) (current : Option QueueState) (next : QueueState)
  | malformedReply (cause : MalformedReply)
  /-- The store refused or could not be understood at all. -/
  | store
  | domain (error : DomainError)
  deriving DecidableEq, Repr

namespace SchedulerError

def message : SchedulerError → String
  | illegalTransition key current next =>
    "illegal transition for " ++ key ++ ": " ++ (current.map QueueState.name).getD "<none>" ++
      " -> " ++ next.name
  | malformedReply cause => "malformed store reply: " ++ cause.message
  | store => "coordination store error"
  | domain error => error.message

def parse (cause : ParseError) : SchedulerError := domain (.parse cause)

end SchedulerError

end BuildQueue
