import BuildQueue.Job.Key

/-!
# Executor reports
-/

namespace BuildQueue

/-- What an executor may say about a job. -/
inductive OutcomeKind where
  | started
  | failure
  | success
  | aborted
  | error
  deriving DecidableEq, Repr

namespace OutcomeKind

def all : List OutcomeKind := [started, failure, success, aborted, error]

def tag : OutcomeKind → String
  | started => "started"
  | failure => "failure"
  | success => "success"
  | aborted => "aborted"
  | error => "error"

def ofTag? (s : String) : Option OutcomeKind := all.find? (·.tag == s)

end OutcomeKind

/-- An executor's report about one job. -/
structure JobOutcome where
  kind : OutcomeKind
  key : JobKey
  deriving DecidableEq, Repr

/-- The report for people. -/
def JobOutcome.display (o : JobOutcome) : String := o.kind.tag ++ " " ++ o.key.text

end BuildQueue
