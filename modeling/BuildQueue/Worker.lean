import BuildQueue.Orchestrator.Basic

/-!
# The worker

A worker brings events to the orchestrator: the transitions that the ledger posts and the reports of
the executor. Both wait in a mailbox, each kind in its order.
-/

namespace BuildQueue

/-- What a worker brings to the orchestrator. -/
inductive Event where
  | transition (t : Transition)
  | outcome (o : JobOutcome)
  deriving DecidableEq, Repr

/-- The handler of an event. -/
def Orchestrator.handle (o : Orchestrator) : Event → Orchestrator.Handler Unit
  | .transition t => o.onTransition t
  | .outcome r => o.onOutcome r

/-- The events that nobody has taken yet. -/
structure Mailbox where
  transitions : List Transition := []
  outcomes : List JobOutcome := []
  deriving DecidableEq, Repr

namespace Mailbox

/-- The number of events. -/
def size (m : Mailbox) : Nat := m.transitions.length + m.outcomes.length

def post (m : Mailbox) (t : Transition) : Mailbox :=
  { m with transitions := m.transitions ++ [t] }

def report (m : Mailbox) (r : JobOutcome) : Mailbox := { m with outcomes := m.outcomes ++ [r] }

/-- Takes the next event, a transition before a report. -/
def take? (m : Mailbox) : Option (Event × Mailbox) :=
  match m.transitions, m.outcomes with
  | t :: rest, _ => some (.transition t, { m with transitions := rest })
  | [], r :: rest => some (.outcome r, { m with outcomes := rest })
  | [], [] => none

end Mailbox

end BuildQueue
