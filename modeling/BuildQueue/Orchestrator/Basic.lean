import BuildQueue.BuildLog
import BuildQueue.Config.Policy
import BuildQueue.Job.Outcome
import BuildQueue.Ledger
import BuildQueue.Orchestrator.Call

/-!
# The orchestrator

What is done about each event: a change that a review system reports, a transition of the ledger, a
report of the executor. Handlers are programs, and any number of them may be under way at once. None
keeps anything in mind between two requests but what it was told itself, so each looks at the ledger
again where it matters.
-/

namespace BuildQueue

/-- The configuration of an orchestrator and the ledger that it works on. -/
structure Orchestrator where
  ledger : Ledger
  config : SystemConfig
  /-- The address of the build server, below which the logs are. -/
  logBase : String

namespace Orchestrator

/-- What a handler asks for besides the ledger. -/
inductive Request where
  /-- Wait for the turn of a key. -/
  | acquire (key : String)
  /-- Give the turn to the next one. -/
  | release
  | call (c : Call)
  | log (entry : LogEntry)
  /-- Have a call made on the side, and do not wait for it. -/
  | background (c : Call)

abbrev Reply : Request → Type
  | .call c => Except DomainError c.Answer
  | _ => Unit

abbrev interface : Interface := Interface.sum Ledger.interface ⟨Request, Reply⟩

/-- A handler. -/
abbrev Handler := Prog interface

def ofLedger {α : Type} (p : Prog Ledger.interface α) : Handler α := p.inl

def call (c : Call) : Handler (Except DomainError c.Answer) :=
  .ask (I := interface) (.inr (.call c)) .done

def acquire (key : String) : Handler Unit := .ask (I := interface) (.inr (.acquire key)) .done

def release : Handler Unit := .ask (I := interface) (.inr .release) .done

def background (c : Call) : Handler Unit := .ask (I := interface) (.inr (.background c)) .done

/-- Makes a call when its turn has come. -/
def inTurn (key : String) (c : Call) : Handler (Except DomainError c.Answer) := do
  acquire key
  let reply ← call c
  release
  return reply

/-- The turns of a repository's version control. -/
def gitKey (source : Source) : String := "git:" ++ source.display

/-- The turns of a repository's version model. -/
def modelKey (source : Source) : String := "model:" ++ source.display

/-- Enters a message about a change into the build log. -/
def logAbout (source : Source) (canonicalId : String) (level : LogLevel) (message : String) :
    Handler Unit :=
  .ask (I := interface) (.inr (.log ⟨level, message, source, canonicalId⟩)) .done

/-- Enters a message about a job into the build log. -/
def log (key : JobKey) (level : LogLevel) (message : String) : Handler Unit :=
  logAbout key.source key.canonicalId level message

/-- Whether a commit can be built at all. What cannot be found out is taken for no. -/
def hasBuildDefinition (source : Source) (commit : CommitId) : Handler Bool := do
  match ← inTurn (modelKey source) (.hasBuildDefinition source commit) with
  | .ok found => return found
  | .error _ => return false

/-- Forgets what is remembered of a repository. -/
def invalidate (source : Source) : Handler Unit := do
  let _ ← inTurn (gitKey source) (.invalidateGit source)
  let _ ← inTurn (modelKey source) (.invalidateModel source)
  return ()

variable (o : Orchestrator)

/-- Admits as many jobs as there are slots. A store that fails is asked again at the next event. -/
def drain : Handler Unit := do
  let _ ← ofLedger (o.ledger.start o.config.coordinator.concurrency.toNat)
  return ()

/-- Moves a job to a state; `false` if another event made the move moot. -/
def record (key : JobKey) (state : QueueState) : Handler Bool := do
  match ← ofLedger (o.ledger.addState key state) with
  | .ok _ => return true
  | .error _ => return false

/-- Ends a job in a state. -/
def conclude (key : JobKey) (state : QueueState) : Handler Unit := do
  let _ ← o.record key state
  return ()

/-! ## Changes -/

/-- A code-review change was opened or changed. -/
def onUpdate (update : Update) (message : String) (error : Option String) :
    Handler (Except SchedulerError Unit) := do
  if (o.config.activeRepository update.source).isNone then return .ok ()
  let key : JobKey := ⟨update.source, .update update.id update.target, update.commit⟩
  match error with
  | some error =>
    log key .error (message ++ " " ++ error)
    return .ok ()
  | none =>
    if ← hasBuildDefinition update.source update.commit then
      match ← ofLedger (o.ledger.push key) with
      | .error e => return .error e
      | .ok outcome =>
        if !outcome.duplicate then
          log key .info (message ++ " Queued `" ++ update.commit.short ++ "` for `" ++
            update.target ++ "`.")
        return .ok ()
    else return .ok ()

/-- A branch was pushed: it is built if its repository asks for that. -/
def onBranchPush (source : Source) (branch : String) (commit : CommitId) :
    Handler (Except SchedulerError Unit) := do
  if (o.config.activeRepository source).any (·.builds branch) then
    if ← hasBuildDefinition source commit then
      let key : JobKey := ⟨source, .branch branch, commit⟩
      match ← ofLedger (o.ledger.push key) with
      | .error e => return .error e
      | .ok outcome =>
        if !outcome.duplicate then
          log key .info ("Queued `" ++ commit.short ++ "` pushed to `" ++ branch ++ "`.")
        return .ok ()
    else return .ok ()
  else return .ok ()

/-- A reference was made or moved. A release tag has the dependents looked at again. -/
def onPush (source : Source) (ref : GitRef) (commit : CommitId) :
    Handler (Except SchedulerError Unit) := do
  invalidate source
  match ref with
  | .tag tag =>
    if Version.isReleaseTag tag then background (.rescan source tag)
    return .ok ()
  | .branch branch => o.onBranchPush source branch commit

/-- A reference was deleted. -/
def onDelete (source : Source) : Handler (Except SchedulerError Unit) := do
  invalidate source
  return .ok ()

/-! ## Transitions -/

/-- Hands an admitted job to the executor, unless it was superseded in the meantime. -/
def handOff (key : JobKey) : Handler Unit := do
  match ← ofLedger (o.ledger.status key) with
  | .ok (some .starting) =>
    match ← call (.startJob key) with
    | .ok _ => return ()
    | .error e =>
      log key .error ("Could not start the build: " ++ e.message)
      o.conclude key .error
  | _ => return ()

/-- Enters one message after the other. -/
def logAll (key : JobKey) (level : LogLevel) : List String → Handler Unit
  | [] => return ()
  | message :: rest => do
    log key level message
    logAll key level rest

/-- Looks at the dependencies of an admitted job, and hands it off if they fit together. -/
def checkDependencies (key : JobKey) : Handler Unit := do
  match ← call (.dependencyGraph key.source key.commit) with
  | .error e =>
    log key .error ("Dependency check failed: " ++ e.message)
    o.conclude key .error
  | .ok graph =>
    if graph.problems.isEmpty then o.handOff key
    else
      logAll key .warning (graph.problems.map DependencyProblem.display)
      o.conclude key .dependency

/-- Rebases an admitted update; one that had to be rebased comes back as an update of its own. -/
def prepareUpdate (key : JobKey) (updateId target : String) : Handler Unit := do
  match ← inTurn (gitKey key.source) (.rebase key.source updateId) with
  | .ok .upToDate => o.checkDependencies key
  | .ok (.rebased commit) =>
    log key .info ("Rebased onto `" ++ target ++ "`; the build continues with `" ++ commit.short ++
      "`.")
    o.conclude key .rebased
  | .ok .conflict =>
    log key .warning ("Cannot rebase onto `" ++ target ++ "`: the change conflicts.")
    o.conclude key .conflict
  | .error e =>
    log key .error ("Rebase onto `" ++ target ++ "` failed: " ++ e.message)
    o.conclude key .error

/-- Brings an admitted job to the executor. -/
def prepare (key : JobKey) : Handler Unit :=
  match key.ref with
  | .update updateId target => o.prepareUpdate key updateId target
  | .branch _ => o.checkDependencies key

/-- The ledger has moved a job. A job that a newer push took the place of is aborted; one that the
executor reported as aborted needs no telling. -/
def onTransition (t : Transition) : Handler Unit := do
  match t.state with
  | .starting => o.prepare t.key
  | .queued => o.drain
  | .started => return ()
  | .aborted =>
    if t.superseded then
      let _ ← call (.abortJob t.key)
      o.drain
    else o.drain
  | _ => o.drain

/-! ## Releases -/

/-- Opens the branch for later patches of a release that is more than a patch, if its repository
asks for one. -/
def openMaintenance (source : Source) (head : CommitId) (version : Version) (bump : Bump) :
    Handler (Except DomainError Unit) :=
  if (o.config.repository source).any (·.maintenanceBranches) && bump ≠ .patch then
    inTurn (gitKey source) (.createBranch source head version.maintenanceBranch)
  else return .ok ()

/-- Cuts a release from the tip of a branch. -/
def releaseAs (source : Source) (branch : String) (bump : Bump) (canonicalId : String) :
    Handler (Except DomainError Version) := do
  match ← inTurn (modelKey source) (.nextVersion source branch bump) with
  | .error e => return .error e
  | .ok version =>
    match ← inTurn (gitKey source) (.branchHead source branch) with
    | .error e => return .error e
    | .ok head =>
      match ← inTurn (gitKey source) (.createTag source head version.tag) with
      | .error e => return .error e
      | .ok _ =>
        match ← o.openMaintenance source head version bump with
        | .error e => return .error e
        | .ok _ =>
          logAbout source canonicalId .info
            ("Released version `" ++ version.text ++ "` from `" ++ branch ++ "`.")
          return .ok version

/-- Cuts a release that somebody asked for. -/
def releaseNow (source : Source) (branch : String) (bump : Bump) :
    Handler (Except DomainError Version) :=
  o.releaseAs source branch bump ("release/" ++ branch)

/-! ## Reports of the executor -/

def onStarted (key : JobKey) : Handler Unit := do
  if ← o.record key .started then log key .info "Build started."

def onFailure (key : JobKey) : Handler Unit := do
  if ← o.record key .failure then log key .warning "Build failed."

def onError (key : JobKey) : Handler Unit := do
  if ← o.record key .error then log key .error "Build errored."

/-- The executor says that it aborted a job; one that was aborted from here is not news. -/
def onAborted (key : JobKey) : Handler Unit := do
  match ← ofLedger (o.ledger.status key) with
  | .ok (some .aborted) => return ()
  | _ => if ← o.record key .aborted then log key .info "Build aborted."

/-- A watchdog says that a job takes too long. -/
def onTimeout (key : JobKey) : Handler Unit := do
  if ← o.record key .timeout then log key .warning "Build timed out."

/-- A change has landed on a branch, from which a release may have to be cut. -/
def onLanded (key : JobKey) (policy : RepositoryPolicy) (branch : String) : Handler Unit := do
  match policy.releaseFor branch with
  | none => return ()
  | some bump =>
    match ← o.releaseAs key.source branch bump key.canonicalId with
    | .ok _ => return ()
    | .error e => log key .error ("Release from `" ++ branch ++ "` failed: " ++ e.message)

/-- Merges an update that was built with success. -/
def mergeUpdate (key : JobKey) (policy : RepositoryPolicy) (updateId target : String) :
    Handler Unit := do
  match ← inTurn (gitKey key.source) (.merge key.source updateId) with
  | .ok branch =>
    log key .info ("Merged to target branch `" ++ branch ++ "`.")
    o.onLanded key policy branch
  | .error e => log key .error ("Merge to `" ++ target ++ "` failed: " ++ e.message)

/-- Lands a verified change as its repository asks for. -/
def land (key : JobKey) : Handler Unit :=
  match o.config.repository key.source with
  | none => return ()
  | some policy =>
    match key.ref with
    | .update updateId target =>
      if policy.merge then o.mergeUpdate key policy updateId target else return ()
    | .branch branch => o.onLanded key policy branch

/-- Marks the commit of a published job as verified. -/
def verify (key : JobKey) : Handler Unit := do
  let url := logUrl o.logBase key.source key.canonicalId
  match ← call (.setValidBuild key.source key.commit url) with
  | .ok _ => o.land key
  | .error e => log key .error ("Could not mark the commit as verified: " ++ e.message)

/-- Publishes what a job made. -/
def publish (key : JobKey) : Handler Unit := do
  match ← call (.publish key) with
  | .ok names =>
    if !names.isEmpty then log key .info ("Published " ++ String.intercalate ", " names ++ ".")
    o.verify key
  | .error e => log key .error ("Publishing failed: " ++ e.message)

/-- The executor says that a build succeeded. That is news only of a job that is at work. -/
def onSuccess (key : JobKey) : Handler Unit := do
  match ← ofLedger (o.ledger.status key) with
  | .ok (some .started) =>
    if ← o.record key .success then
      log key .info "Build succeeded."
      o.publish key
  | _ => return ()

/-- A report of the executor. -/
def onOutcome (outcome : JobOutcome) : Handler Unit :=
  match outcome.kind with
  | .started => o.onStarted outcome.key
  | .failure => o.onFailure outcome.key
  | .success => o.onSuccess outcome.key
  | .aborted => o.onAborted outcome.key
  | .error => o.onError outcome.key

end Orchestrator

end BuildQueue
