import BuildQueue.Job.Source
import BuildQueue.Text.Percent

/-!
# Build log

What happened to one change, for its author to read. Entries belong together by repository and
canonical id, which also make up the address of the log.
-/

namespace BuildQueue

inductive LogLevel where
  | info
  | warning
  | error
  deriving DecidableEq, Repr

namespace LogLevel

def all : List LogLevel := [info, warning, error]

def name : LogLevel → String
  | info => "INFO"
  | warning => "WARNING"
  | error => "ERROR"

def ofName? (s : String) : Option LogLevel := all.find? (·.name == s)

/-- The severity under which an entry is emitted as an event. -/
def severity : LogLevel → String
  | info => "INFO"
  | warning => "WARN"
  | error => "ERROR"

end LogLevel

/-- An entry of the build log. -/
structure LogEntry where
  level : LogLevel
  message : String
  source : Source
  canonicalId : String
  deriving DecidableEq, Repr

/-- The address of the log of one change, below the address `base` of the build server. -/
def logUrl (base : String) (source : Source) (canonicalId : String) : String :=
  base ++ "/log/" ++ Text.Percent.encode source.id ++ "/" ++ Text.Percent.encode source.path ++
    "/" ++ Text.Percent.encode canonicalId

end BuildQueue
