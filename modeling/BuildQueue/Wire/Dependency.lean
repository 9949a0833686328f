import BuildQueue.Dependency
import BuildQueue.Json.Reader

/-!
# The JSON forms of dependency graphs

An index is read whether or not it points to a node.
-/

namespace BuildQueue

namespace DependencyNode

def toJson (n : DependencyNode) : Json :=
  .record [("reference", .text n.reference), ("version", .text n.version),
    ("dependencies", .array (n.dependencies.map fun i => .nat i.toNat))]

def ofJson? (j : Json) : Option DependencyNode := do
  let [some reference, some version, some dependencies] ←
    j.fields? ["reference", "version", "dependencies"] | none
  return ⟨← reference.text?, ← version.text?, ← dependencies.list? Json.word?⟩

end DependencyNode

namespace DependencyProblem

def toJson : DependencyProblem → Json
  | multipleVersions reference first second =>
    .record [("problem", .text "multiple_versions"), ("reference", .text reference),
      ("first", .text first), ("second", .text second)]
  | missing reference => .record [("problem", .text "missing"), ("reference", .text reference)]

/-- Reads a problem whose members lie `level` deep in a text. -/
def ofJson? (level : Nat) (j : Json) : Option DependencyProblem := do
  match ← j.tagged? "problem" level with
  | ("multiple_versions", j) =>
    let [some reference, some first, some second] ← j.fields? ["reference", "first", "second"]
      | none
    return multipleVersions (← reference.text?) (← first.text?) (← second.text?)
  | ("missing", j) =>
    let [some reference] ← j.fields? ["reference"] | none
    return missing (← reference.text?)
  | _ => none

end DependencyProblem

namespace DependencyGraph

def toJson (g : DependencyGraph) : Json :=
  .record [("nodes", .array (g.nodes.map DependencyNode.toJson)),
    ("problems", .array (g.problems.map DependencyProblem.toJson))]

def ofJson? (j : Json) : Option DependencyGraph := do
  let [some nodes, some problems] ← j.fields? ["nodes", "problems"] | none
  return ⟨← nodes.list? DependencyNode.ofJson?, ← problems.list? (DependencyProblem.ofJson? 3)⟩

end DependencyGraph

end BuildQueue
