import BuildQueue.Error

/-!
# States of a queued job

The life of a job is a walk through the transition table `successors`; a state that leads nowhere
ends it.
-/

namespace BuildQueue

/-- The state of a job that the scheduler knows. -/
inductive QueueState where
  | queued
  | starting
  | started
  | success
  | failure
  | aborted
  | error
  | timeout
  | conflict
  | dependency
  | rebased
  | cancelled
  deriving DecidableEq, Repr

namespace QueueState

def all : List QueueState :=
  [queued, starting, started, success, failure, aborted, error, timeout, conflict, dependency,
    rebased, cancelled]

/-- The states that may follow directly, in the table's order. -/
def successors : QueueState → List QueueState
  | queued => [starting, cancelled]
  | starting => [rebased, conflict, aborted, started, error, timeout, failure, dependency]
  | started => [aborted, failure, success, error, timeout]
  | _ => []

/-- Whether `next` may follow directly. -/
def canBecome (s next : QueueState) : Bool := s.successors.contains next

/-- A state that ends the job and frees its place. -/
def isTerminal (s : QueueState) : Bool := s.successors.isEmpty

/-- The stored name. -/
def name : QueueState → String
  | queued => "QUEUED"
  | starting => "STARTING"
  | started => "STARTED"
  | success => "SUCCESS"
  | failure => "FAILURE"
  | aborted => "ABORTED"
  | error => "ERROR"
  | timeout => "TIMEOUT"
  | conflict => "CONFLICT"
  | dependency => "DEPENDENCY"
  | rebased => "REBASED"
  | cancelled => "CANCELLED"

instance : ToString QueueState := ⟨name⟩

def ofName? (s : String) : Option QueueState := all.find? (·.name == s)

/-- Reads a stored name. -/
def parse (s : String) : Except ParseError QueueState :=
  match ofName? s with
  | some state => .ok state
  | none => .error (.unknownState s)

theorem ofName?_name (s : QueueState) : ofName? s.name = some s := by cases s <;> decide

theorem name_inj {s t : QueueState} (h : s.name = t.name) : s = t := by
  have hs := s.ofName?_name
  rw [h, t.ofName?_name] at hs
  exact (Option.some.inj hs).symm

/-- Only a job that waits can be cancelled. -/
theorem eq_queued_of_canBecome {s : QueueState} (h : s.canBecome cancelled = true) :
    s = queued := by
  cases s <;> first | rfl | cases h

end QueueState

end BuildQueue
