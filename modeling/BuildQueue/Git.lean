import BuildQueue.Job.Commit
import BuildQueue.Job.Source
import BuildQueue.Text.After

/-!
# Git references and code-review updates
-/

namespace BuildQueue

/-- A reference that a push or a deletion names. -/
inductive GitRef where
  | branch (name : String)
  | tag (name : String)
  deriving DecidableEq, Repr

namespace GitRef

def name : GitRef → String
  | branch name => name
  | tag name => name

/-- The path under which references of a kind are kept. -/
def branchPath : String := "refs/heads/"

def tagPath : String := "refs/tags/"

/-- The fully qualified form. -/
def full : GitRef → String
  | branch name => branchPath ++ name
  | tag name => tagPath ++ name

/-- Reads a fully qualified reference to a branch or a tag. -/
def ofFull? (s : String) : Option GitRef :=
  match Text.after? branchPath s with
  | some name => some (branch name)
  | none => (Text.after? tagPath s).map tag

end GitRef

/-- A code-review change as a review system reports it. -/
structure Update where
  source : Source
  id : String
  target : String
  commit : CommitId
  deriving DecidableEq, Repr

/-- What came of rebasing an update onto its target. -/
inductive RebaseResult where
  /-- A new commit was pushed and will arrive as an update of its own. -/
  | rebased (commit : CommitId)
  /-- The update stands on the target's tip already. -/
  | upToDate
  | conflict
  deriving DecidableEq, Repr

end BuildQueue
