import BuildQueue.Config.Error
import BuildQueue.Config.Policy
import BuildQueue.Kdl.Document

/-!
# Configuration from documents

A document holds any number of `coordinator` nodes, the last of which counts, and a `repository`
node for each repository; nodes of other names are passed over. A child of a `coordinator` or
`repository` node sets one thing, and a later child sets it again; branch patterns add up.
-/

namespace BuildQueue

open Kdl (Node)

/-- The first argument of a node as an integer that is at least one and fits into 64 bits. -/
def Kdl.Node.positive (n : Node) : Except ConfigError UInt64 :=
  match n.integer? with
  | none => .error (.invalidValue n.name .notInteger)
  | some i =>
    if 1 ≤ i ∧ i < UInt64.size then .ok (UInt64.ofNat i.toNat)
    else .error (.invalidValue n.name (.notPositive i))

/-- The first argument of a node as a boolean. -/
def Kdl.Node.flag (n : Node) : Except ConfigError Bool :=
  match n.boolean? with
  | some b => .ok b
  | none => .error (.invalidValue n.name .notBoolean)

/-- The first argument of a node as a text; `name` is what is missing otherwise. -/
def Kdl.Node.textFor (n : Node) (name : String) : Except ConfigError String :=
  match n.text? with
  | some s => .ok s
  | none => .error (.missingField name)

/-- The patterns that a node lists. -/
def Kdl.Node.patterns (n : Node) : Except ConfigError (List BranchPattern) :=
  n.texts.mapM fun s =>
    match BranchPattern.parse? s with
    | some p => .ok p
    | none => .error (.malformedPattern s)

namespace Coordinator

/-- Whether names in the store can start with a text. -/
def isKeyRoot (s : String) : Bool := !s.isEmpty && !s.toList.contains ':'

/-- Takes one setting over. -/
def set (c : Coordinator) (n : Node) : Except ConfigError Coordinator :=
  match n.name with
  | "redis-url" => .ok { c with storeUrl := n.text? }
  | "key-prefix" => do
    let root ← n.textFor "key-prefix value"
    if isKeyRoot root then return { c with keyRoot := root }
    else .error (.invalidValue "key-prefix" .malformedKeyRoot)
  | "concurrency" => do return { c with concurrency := ← n.positive }
  | "status-ttl-hours" => do return { c with statusTtl := .ofHours (← n.positive) }
  | _ => .ok c

def ofNode (n : Node) : Except ConfigError Coordinator := n.children.foldlM set {}

end Coordinator

namespace RepositoryPolicy

/-- Takes one setting over. -/
def set (p : RepositoryPolicy) (n : Node) : Except ConfigError RepositoryPolicy :=
  match n.name with
  | "active" => do return { p with active := ← n.flag }
  | "merge" => do return { p with merge := ← n.flag }
  | "maintenance-branches" => do return { p with maintenanceBranches := ← n.flag }
  | "release" => do
    let text ← n.textFor "release bump"
    match Bump.parse text with
    | .ok bump => return { p with release := some bump }
    | .error _ => .error (.invalidValue "release" (.unknownBump text))
  | "release-branch" => do
    return { p with releaseBranches := p.releaseBranches ++ (← n.patterns) }
  | "build-branch" => do
    return { p with buildBranches := p.buildBranches ++ (← n.patterns) }
  | _ => .ok p

/-- The policy of a node, whose texts are the source of its repository. -/
def ofNode (n : Node) : Except ConfigError RepositoryPolicy :=
  match n.texts with
  | [id, path] => n.children.foldlM set { source := ⟨id, path⟩ }
  | _ => .error (.missingField "repository source id and path")

end RepositoryPolicy

namespace SystemConfig

/-- Takes one node of a document over. -/
def add (c : SystemConfig) (n : Node) : Except ConfigError SystemConfig :=
  match n.name with
  | "coordinator" => do return { c with coordinator := ← Coordinator.ofNode n }
  | "repository" => do
    let p ← RepositoryPolicy.ofNode n
    if (c.repository p.source).isSome then .error (.duplicateRepository p.source)
    else return { c with repositories := c.repositories ++ [p] }
  | _ => .ok c

def ofDocument (d : Kdl.Document) : Except ConfigError SystemConfig := d.foldlM add {}

/-- Reads a system configuration. -/
def parse (text : String) : Except ConfigError SystemConfig :=
  match Kdl.Document.parse? text with
  | some d => ofDocument d
  | none => .error .malformedDocument

end SystemConfig

end BuildQueue
