import BuildQueue.Store.InProcess
import BuildQueue.Store.Shared

/-!
# Calls of a store

The operations that the ledger asks of a store, as values.
-/

namespace BuildQueue

/-- An operation of a store. -/
inductive StoreCall where
  | push (queue : String) (pools : PoolKeys) (job label : String) (ttl : Nat)
  | start (pools : PoolKeys) (max ttl : Nat)
  | swap (pools : PoolKeys) (swap : StatusSwap) (ttl : Nat)
  | status (name : String)
  | pool (pools : PoolKeys) (which : Pool)
  deriving DecidableEq, Repr

namespace StoreCall

/-- The name of the operation. -/
def name : StoreCall → String
  | push .. => "push"
  | start .. => "start"
  | swap .. => "swap"
  | status _ => "status"
  | pool .. => "pool"

/-- What a store answers to an operation. -/
abbrev Answer : StoreCall → Type
  | push .. => PushReply
  | start .. => StartReply
  | swap .. => SwapReply
  | status _ => Option String
  | pool .. => List PoolEntry

end StoreCall

/-- Performs an operation in one step, at the time `now` of its caller. -/
def InProcess.perform (s : InProcess) (now : Int) : (c : StoreCall) → c.Answer × InProcess
  | .push queue pools job label ttl => s.push queue pools job label ttl now
  | .start pools max ttl => s.start pools max ttl now
  | .swap pools swap ttl => s.swap pools swap ttl now
  | .status name => (s.status? name, s)
  | .pool pools which => (s.entries pools which, s)

/-- Performs an operation at the time `now` of its caller. -/
def Shared.perform (s : Shared) (now : Int) :
    (c : StoreCall) → Except SchedulerError c.Answer × Shared
  | .push queue pools job label ttl => s.push queue pools job label ttl now
  | .start pools max ttl => s.start pools max ttl now
  | .swap pools swap ttl => s.swap pools swap ttl now
  | .status name => s.status name
  | .pool pools which => s.pool pools which

end BuildQueue
