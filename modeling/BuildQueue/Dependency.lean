/-!
# Dependency graphs

The resolved dependencies of one commit. Node 0 is the commit's own repository; edges are indices,
and one that points past the nodes leads nowhere.
-/

namespace BuildQueue

/-- One repository at one version. -/
structure DependencyNode where
  /-- The reference as the dependent's build definition writes it. -/
  reference : String
  version : String
  /-- The indices of the nodes this one depends on. -/
  dependencies : List UInt64
  deriving DecidableEq, Repr

/-- What is wrong with a set of dependencies. -/
inductive DependencyProblem where
  /-- One reference is required at two versions. -/
  | multipleVersions (reference first second : String)
  /-- No repository answers to a reference. -/
  | missing (reference : String)
  deriving DecidableEq, Repr

/-- The problem for people. -/
def DependencyProblem.display : DependencyProblem → String
  | multipleVersions reference first second =>
    "Dependency `" ++ reference ++ "` is required at multiple versions: `" ++ first ++ "` and `" ++
      second ++ "`."
  | missing reference => "Dependency `" ++ reference ++ "` could not be resolved."

structure DependencyGraph where
  nodes : List DependencyNode
  problems : List DependencyProblem
  deriving DecidableEq, Repr

namespace DependencyGraph

def empty : DependencyGraph := ⟨[], []⟩

/-- The nodes that are not among `seen`. -/
def unseen (g : DependencyGraph) (seen : List Nat) : List Nat :=
  (List.range g.nodes.length).filter fun i => !seen.contains i

theorem length_unseen_lt {g : DependencyGraph} {seen : List Nat} {i : Nat}
    (hi : i < g.nodes.length) (hs : ¬ seen.contains i) :
    (g.unseen (i :: seen)).length < (g.unseen seen).length := by
  have hmem : i ∈ g.unseen seen := by simpa [unseen, hi] using hs
  have : g.unseen (i :: seen) = (g.unseen seen).filter (· ≠ i) := by
    simp only [unseen, List.filter_filter]
    congr 1; funext j
    by_cases h : j = i <;> simp [h]
  rw [this]
  exact List.length_filter_lt_length_iff_exists.2 ⟨i, hmem, by simp⟩

/-- The indices that a walk visits when it has seen `seen` and still has `stack` to look at. Each
visited node puts its dependencies in front of the stack. -/
def walk (g : DependencyGraph) (seen stack : List Nat) : List Nat :=
  match stack with
  | [] => []
  | i :: rest =>
    if seen.contains i then walk g seen rest
    else if h : i < g.nodes.length then
      let next := (g.nodes.get ⟨i, h⟩).dependencies.map UInt64.toNat
      i :: walk g (i :: seen) (next ++ rest)
    else walk g seen rest
termination_by ((g.unseen seen).length, stack.length)
decreasing_by
  · exact Prod.Lex.right _ (by simp)
  · exact Prod.Lex.left _ _ (length_unseen_lt h (by assumption))
  · exact Prod.Lex.right _ (by simp)

/-- The indices of the nodes that can be reached from the root, each once and depth first. -/
def traverse (g : DependencyGraph) : List Nat := g.walk [] [0]

/-- The nodes in the order of `traverse`. -/
def visited (g : DependencyGraph) : List DependencyNode := g.traverse.filterMap (g.nodes[·]?)

end DependencyGraph

end BuildQueue
