import BuildQueue.Dependency
import BuildQueue.Git
import BuildQueue.Job.Key
import BuildQueue.Version

/-!
# Calls to the systems around

The operations of version control, version model, dependency resolution, executor and publisher, as
values.
-/

namespace BuildQueue

/-- A call to one of the systems that the orchestrator drives. -/
inductive Call where
  /-- Rebase an update onto the tip of its target. -/
  | rebase (source : Source) (updateId : String)
  /-- Merge an update; answers the branch on which it landed. -/
  | merge (source : Source) (updateId : String)
  /-- Mark a commit as verified by a build. -/
  | setValidBuild (source : Source) (commit : CommitId) (logUrl : String)
  | branchHead (source : Source) (branch : String)
  | createTag (source : Source) (commit : CommitId) (tag : String)
  | createBranch (source : Source) (commit : CommitId) (branch : String)
  /-- Drop what is remembered of a repository's references. -/
  | invalidateGit (source : Source)
  /-- Drop what is remembered of a repository's versions. -/
  | invalidateModel (source : Source)
  /-- The version that the next release from a branch would have. -/
  | nextVersion (source : Source) (branch : String) (bump : Bump)
  | hasBuildDefinition (source : Source) (commit : CommitId)
  | dependencyGraph (source : Source) (commit : CommitId)
  /-- Look again at the repositories that depend on a released one. -/
  | rescan (source : Source) (tag : String)
  | startJob (key : JobKey)
  | abortJob (key : JobKey)
  /-- Publish what a build made; answers the names of the artifacts. -/
  | publish (key : JobKey)
  deriving DecidableEq, Repr

namespace Call

/-- What a call answers when it succeeds. -/
abbrev Answer : Call → Type
  | rebase .. => RebaseResult
  | merge .. => String
  | branchHead .. => CommitId
  | nextVersion .. => Version
  | hasBuildDefinition .. => Bool
  | dependencyGraph .. => DependencyGraph
  | publish _ => List String
  | _ => Unit

/-- The name of the operation. -/
def name : Call → String
  | rebase .. => "rebase"
  | merge .. => "merge"
  | setValidBuild .. => "set_valid_build"
  | branchHead .. => "branch_head"
  | createTag .. => "create_tag"
  | createBranch .. => "create_branch"
  | invalidateGit _ => "invalidate_git"
  | invalidateModel _ => "invalidate_model"
  | nextVersion .. => "next_version"
  | hasBuildDefinition .. => "has_build_definition"
  | dependencyGraph .. => "dependency_graph"
  | rescan .. => "rescan"
  | startJob _ => "start_job"
  | abortJob _ => "abort_job"
  | publish _ => "publish"

/-- What the call is about: an update, a commit, a branch, a tag or a job. -/
def subject : Call → String
  | rebase _ updateId => updateId
  | merge _ updateId => updateId
  | setValidBuild _ commit _ => commit.text
  | branchHead _ branch => branch
  | createTag _ _ tag => tag
  | createBranch _ _ branch => branch
  | invalidateGit _ => ""
  | invalidateModel _ => ""
  | nextVersion _ branch _ => branch
  | hasBuildDefinition _ commit => commit.text
  | dependencyGraph _ commit => commit.text
  | rescan _ tag => tag
  | startJob key => key.canonicalId
  | abortJob key => key.canonicalId
  | publish key => key.canonicalId

/-- The arguments as texts. -/
def arguments : Call → List String
  | rebase source updateId => [source.display, updateId]
  | merge source updateId => [source.display, updateId]
  | setValidBuild source commit logUrl => [source.display, commit.text, logUrl]
  | branchHead source branch => [source.display, branch]
  | createTag source commit tag => [source.display, commit.text, tag]
  | createBranch source commit branch => [source.display, commit.text, branch]
  | invalidateGit source => [source.display]
  | invalidateModel source => [source.display]
  | nextVersion source branch bump => [source.display, branch, bump.name]
  | hasBuildDefinition source commit => [source.display, commit.text]
  | dependencyGraph source commit => [source.display, commit.text]
  | rescan source tag => [source.display, tag]
  | startJob key => [key.text]
  | abortJob key => [key.text]
  | publish key => [key.text]

end Call

end BuildQueue
