import BuildQueue.Job.Commit
import BuildQueue.Text.Percent

/-!
# What a job builds

A job is asked for by a code-review update or by a push to a branch. Updates compete for their
target branch; each push of a branch stands alone.
-/

namespace BuildQueue

open Text (Percent.encode)

/-- The kind of change a job builds. -/
inductive RefKind where
  | update
  | branch
  deriving DecidableEq, Repr

/-- The word for a kind of change. -/
def RefKind.tag : RefKind → String
  | update => "update"
  | branch => "branch"

/-- The change a job builds. -/
inductive JobRef where
  /-- A code-review change that aims at a branch. -/
  | update (id target : String)
  /-- A direct push to a branch. -/
  | branch (name : String)
  deriving DecidableEq, Repr

namespace JobRef

def kind : JobRef → RefKind
  | update .. => .update
  | branch _ => .branch

/-- The name of the change among those of its kind. -/
def key : JobRef → String
  | update id _ => id
  | branch name => name

/-- What makes two changes the same one: kind and name. An update stays itself when it is aimed at
another branch. -/
def identity (r : JobRef) : RefKind × String := (r.kind, r.key)

/-- Whether two values speak of the same change. -/
def same (a b : JobRef) : Bool := a.identity == b.identity

/-- The branch on which the change lands. -/
def targetBranch : JobRef → String
  | update _ target => target
  | branch name => name

/-- The competition group within a repository: two jobs of one group never run together. -/
def queueId (r : JobRef) (commit : CommitId) : String :=
  match r with
  | update _ target => "update-" ++ Percent.encode target
  | branch name => "branch-" ++ Percent.encode name ++ "-" ++ commit.text

/-- The id that ties build-log entries of one change together. -/
def canonicalId (r : JobRef) : String := r.kind.tag ++ "/" ++ r.key

def display : JobRef → String
  | update id target => "update " ++ id ++ " -> " ++ target
  | branch name => "branch " ++ name

end JobRef

end BuildQueue
