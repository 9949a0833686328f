import BuildQueue.Job.Source

/-!
# Errors of configuration

Each error is a cause; `message` words it.
-/

namespace BuildQueue

/-- Why a file could not be read. -/
inductive ReadFault where
  | missing
  | denied
  | notFolder
  | folder
  | notText
  /-- Reported by the system in its own words. -/
  | reported (text : String)
  deriving DecidableEq, Repr

def ReadFault.message : ReadFault → String
  | missing => "No such file or directory (os error 2)"
  | denied => "Permission denied (os error 13)"
  | notFolder => "Not a directory (os error 20)"
  | folder => "Is a directory (os error 21)"
  | notText => "stream did not contain valid UTF-8"
  | reported text => text

/-- Why a value of a configuration is refused. -/
inductive ValueFault where
  /-- A name in the store is put together with colons. -/
  | malformedKeyRoot
  | notBoolean
  | notInteger
  | notPositive (n : Int)
  | unknownBump (text : String)
  deriving DecidableEq, Repr

def ValueFault.message : ValueFault → String
  | malformedKeyRoot => "must be non-empty and must not contain ':'"
  | notBoolean => "expected #true or #false"
  | notInteger => "expected an integer"
  | notPositive n => "must be at least 1, got " ++ toString n
  | unknownBump text => "unknown bump type: " ++ text

/-- Why a text is no system configuration. -/
inductive ConfigError where
  | malformedDocument
  | missingField (name : String)
  | invalidValue (field : String) (fault : ValueFault)
  | malformedPattern (pattern : String)
  | duplicateRepository (source : Source)
  | unreadable (path : String) (fault : ReadFault)
  deriving DecidableEq, Repr

namespace ConfigError

def message : ConfigError → String
  | malformedDocument => "KDL parse error: Failed to parse KDL document"
  | missingField name => "missing required field: " ++ name
  | invalidValue field fault => "invalid value for " ++ field ++ ": " ++ fault.message
  | malformedPattern pattern => "invalid value for branch pattern: " ++ pattern
  | duplicateRepository source =>
    "repository " ++ source.display ++ " is configured more than once"
  | unreadable path fault => "cannot read " ++ path ++ ": " ++ fault.message

end ConfigError

end BuildQueue
