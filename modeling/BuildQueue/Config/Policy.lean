import BuildQueue.Job.Source
import BuildQueue.Pattern.Branch
import BuildQueue.Version

/-!
# System configuration

What a deployment is told: where its store is and how much it may do at once, and for each
repository what it builds, merges and releases.
-/

namespace BuildQueue

/-- A span of time in whole seconds and nanoseconds. -/
structure Span where
  seconds : UInt64
  nanoseconds : UInt32
  nanoseconds_lt : nanoseconds < 1000000000 := by decide
  deriving DecidableEq, Repr

namespace Span

def ofHours (hours : UInt64) : Span := { seconds := hours * 3600, nanoseconds := 0 }

/-- The whole milliseconds of a span. -/
def milliseconds (d : Span) : Nat := d.seconds.toNat * 1000 + d.nanoseconds.toNat / 1000000

end Span

/-- The store and the limits of a deployment. -/
structure Coordinator where
  /-- The address of the shared store. -/
  storeUrl : Option String := none
  /-- The start of every name in the store. -/
  keyRoot : String := "queue"
  /-- How many jobs may hold a slot at once. -/
  concurrency : UInt64 := 4
  /-- How long a status lives. -/
  statusTtl : Span := .ofHours 48
  deriving DecidableEq, Repr

/-- What is done for one repository. -/
structure RepositoryPolicy where
  source : Source
  /-- An inactive repository is known but its updates and pushes are ignored. -/
  active : Bool := true
  /-- Merge an update that was built with success. -/
  merge : Bool := false
  /-- The component of the version that a release raises. -/
  release : Option Bump := none
  /-- The branches from which releases are cut. -/
  releaseBranches : List BranchPattern := []
  /-- The branches whose pushes are built. -/
  buildBranches : List BranchPattern := []
  /-- Open a branch for later patches on every release that is more than a patch. -/
  maintenanceBranches : Bool := false

namespace RepositoryPolicy

/-- The release to cut when a change lands on a branch. -/
def releaseFor (p : RepositoryPolicy) (branch : String) : Option Bump :=
  if p.releaseBranches.any (·.selects branch) then p.release else none

/-- Whether pushes to a branch are built. -/
def builds (p : RepositoryPolicy) (branch : String) : Bool :=
  p.buildBranches.any (·.selects branch)

end RepositoryPolicy

structure SystemConfig where
  coordinator : Coordinator := {}
  repositories : List RepositoryPolicy := []

namespace SystemConfig

/-- The policy of a repository, if it is configured. -/
def repository (c : SystemConfig) (source : Source) : Option RepositoryPolicy :=
  c.repositories.find? (·.source = source)

/-- The policy of a repository whose changes are acted on. -/
def activeRepository (c : SystemConfig) (source : Source) : Option RepositoryPolicy :=
  (c.repository source).filter (·.active)

end SystemConfig

end BuildQueue
