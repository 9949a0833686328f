import BuildQueue.Config.Policy
import BuildQueue.Wire.Job

/-!
# The JSON forms of configuration

A configuration that is read in this form has been through no check but the reading of its patterns:
limits may be zero and the names in the store may start with anything.
-/

namespace BuildQueue

namespace BranchPattern

def toJson (p : BranchPattern) : Json := .text p.source

def ofJson? (j : Json) : Option BranchPattern := do parse? (← j.text?)

end BranchPattern

namespace Span

def toJson (d : Span) : Json :=
  .record [("secs", .nat d.seconds.toNat), ("nanos", .nat d.nanoseconds.toNat)]

/-- The span of seconds and nanoseconds, of which there may be more than in a second; the seconds
have to fit into 64 bits. -/
def ofParts? (seconds : UInt64) (nanoseconds : UInt32) : Option Span :=
  let carry := seconds.toNat + nanoseconds.toNat / 1000000000
  if h : carry < UInt64.size then
    some ⟨⟨carry, h⟩, nanoseconds % 1000000000, UInt32.mod_lt _ (by decide)⟩
  else none

/-- Whether a record has a given number of members. -/
def hasMembers (count : Nat) : Json → Bool
  | .object members => members.length = count
  | _ => true

/-- Unlike other records a span has no further members. -/
def ofJson? (j : Json) : Option Span := do
  let [some seconds, some nanoseconds] ← j.fields? ["secs", "nanos"] | none
  if hasMembers 2 j then
    ofParts? (← seconds.word?) (UInt32.ofNat (← nanoseconds.natBelow? UInt32.size))
  else none

end Span

namespace Coordinator

def toJson (c : Coordinator) : Json :=
  .record [("redis_url", .option .text c.storeUrl), ("key_prefix", .text c.keyRoot),
    ("concurrency", .nat c.concurrency.toNat), ("status_ttl", c.statusTtl.toJson)]

def ofJson? (j : Json) : Option Coordinator := do
  let [storeUrl, some keyRoot, some concurrency, some statusTtl] ←
    j.fields? ["redis_url", "key_prefix", "concurrency", "status_ttl"] | none
  return ⟨← Json.optional? Json.text? storeUrl, ← keyRoot.text?,
    ← concurrency.word?, ← Span.ofJson? statusTtl⟩

end Coordinator

namespace RepositoryPolicy

def toJson (p : RepositoryPolicy) : Json :=
  .record [("source_id", .text p.source.id), ("path", .text p.source.path),
    ("active", .bool p.active), ("merge", .bool p.merge),
    ("release", .option Bump.toJson p.release),
    ("release_branches", .array (p.releaseBranches.map BranchPattern.toJson)),
    ("build_branches", .array (p.buildBranches.map BranchPattern.toJson)),
    ("maintenance_branches", .bool p.maintenanceBranches)]

def ofJson? (j : Json) : Option RepositoryPolicy := do
  let [some id, some path, some active, some merge, release, some releaseBranches,
      some buildBranches, some maintenanceBranches] ←
    j.fields? ["source_id", "path", "active", "merge", "release", "release_branches",
      "build_branches", "maintenance_branches"] | none
  return {
    source := ⟨← id.text?, ← path.text?⟩
    active := ← active.bool?
    merge := ← merge.bool?
    release := ← Json.optional? Bump.ofJson? release
    releaseBranches := ← releaseBranches.list? BranchPattern.ofJson?
    buildBranches := ← buildBranches.list? BranchPattern.ofJson?
    maintenanceBranches := ← maintenanceBranches.bool? }

end RepositoryPolicy

namespace SystemConfig

def toJson (c : SystemConfig) : Json :=
  .record [("coordinator", c.coordinator.toJson),
    ("repositories", .array (c.repositories.map RepositoryPolicy.toJson))]

def ofJson? (j : Json) : Option SystemConfig := do
  let [some coordinator, some repositories] ← j.fields? ["coordinator", "repositories"] | none
  return ⟨← Coordinator.ofJson? coordinator, ← repositories.list? RepositoryPolicy.ofJson?⟩

end SystemConfig

end BuildQueue
