import BuildQueue.Text.Quoted
import BuildQueue.Text.Utf8

/-!
# Errors of the domain

Each error is a cause; `message` words it.
-/

namespace BuildQueue

open Text (Quoted.quote)

/-- Why a text does not name a thing of the domain. -/
inductive ParseError where
  /-- No commit id has this text. -/
  | malformedCommit (text : String)
  /-- A job key has at least five fields. -/
  | truncatedKey (text : String)
  /-- The bytes of a percent-coded field are no text. -/
  | fieldEncoding (field : String) (fault : Text.Utf8.Fault)
  /-- A job key whose kind of change is known has another number of fields. -/
  | fieldCount (count : Nat) (kind text : String)
  /-- No kind of change has this tag. -/
  | unknownKind (tag : String)
  | unknownState (text : String)
  | unknownBump (text : String)
  /-- Reported by a collaborator in its own words. -/
  | reported (text : String)
  deriving DecidableEq, Repr

namespace ParseError

def message : ParseError → String
  | malformedCommit text => "malformed commit id: " ++ Quoted.quote text
  | truncatedKey text => "truncated job key: " ++ Quoted.quote text
  | fieldEncoding field fault =>
    "invalid field encoding " ++ Quoted.quote field ++ ": " ++ fault.message
  | fieldCount count kind text =>
    "wrong field count " ++ toString count ++ " for " ++ kind ++ " reference in " ++
      Quoted.quote text
  | unknownKind tag => "unknown reference kind: " ++ Quoted.quote tag
  | unknownState text => "unknown queue state: " ++ Quoted.quote text
  | unknownBump text => "unknown bump type: " ++ text
  | reported text => text

end ParseError

/-- What goes wrong in the domain or in a system it drives. -/
inductive DomainError where
  | parse (cause : ParseError)
  | notFound (text : String)
  | repository (text : String)
  | executionFailed (text : String)
  | publishFailed (text : String)
  | internal (text : String)
  deriving DecidableEq, Repr

namespace DomainError

def message : DomainError → String
  | parse cause => "parse error: " ++ cause.message
  | notFound text => "not found: " ++ text
  | repository text => "repository access failed: " ++ text
  | executionFailed text => "execution failed: " ++ text
  | publishFailed text => "publish failed: " ++ text
  | internal text => "internal error: " ++ text

end DomainError

end BuildQueue
