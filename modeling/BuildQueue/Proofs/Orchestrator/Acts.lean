import BuildQueue.Proofs.Orchestrator.Tasks
import BuildQueue.Worker
import Mathlib.Data.ENat.Basic

/-!
# Handlers as acts

A handler is a sequence of acts: whole calls of the ledger, and requests to the systems around.
Each act has a price, a bound on the weight of the events that it may bring to the worker; what a
handler spends is the price of its acts (`Costs`). The handler of an event spends less than the
event weighs (`handle_costs`); a handler that pushes may spend any amount.
-/

namespace BuildQueue

/-- How many reports a call may bring about, where one of the executor brings about `c` at most. -/
def Call.echo (c : Nat) : Call → Nat
  | .startJob _ | .abortJob _ => c
  | _ => 0

/-- The weight of a transition: one for the event, two for each report that its handler may bring
about, and one for the end of a job that cannot be started. -/
def Transition.weight (c : Nat) (t : Transition) : Nat :=
  if t.state = .starting then 2 * c + 2
  else if t.state = .aborted ∧ t.superseded = true then 2 * c + 1
  else 1

/-- The weight of an event; a report may bring about a transition. -/
def Event.weight (c : Nat) : Event → Nat
  | .transition t => t.weight c
  | .outcome _ => 2

namespace Orchestrator

/-- What a handler does in one go. -/
inductive Act where
  | status (key : JobKey)
  | record (key : JobKey) (state : QueueState) (h : state ≠ .starting)
  | push (key : JobKey)
  | drain
  | request (r : Request)

namespace Act

abbrev Result : Act → Type
  | status _ => Ledger.Result (Option QueueState)
  | record .. => Ledger.Result Transition
  | push _ => Ledger.Result PushOutcome
  | drain => Ledger.Result (List JobKey)
  | request r => Reply r

def program (o : Orchestrator) : (a : Act) → Handler a.Result
  | status key => ofLedger (o.ledger.status key)
  | record key state _ => ofLedger (o.ledger.addState key state)
  | push key => ofLedger (o.ledger.push key)
  | drain => ofLedger (o.ledger.start o.config.coordinator.concurrency.toNat)
  | request r => .ask (I := interface) (.inr r) .done

/-- A bound on the weight of the events that an act brings about. Admissions are paid for by the
jobs that wait. -/
def price (c : Nat) : Act → ℕ∞
  | status _ | drain => 0
  | record .. => 1
  | push _ => ⊤
  | request (.call call) => (2 * call.echo c : ℕ)
  | request _ => 0

end Act

/-- Whatever it is answered, the program performs acts that cost `n` at most. -/
inductive Costs (o : Orchestrator) (c : Nat) {α : Type} : ℕ∞ → Handler α → Prop where
  | done (n : ℕ∞) (a : α) : Costs o c n (.done a)
  | act {n m : ℕ∞} (a : Act) {f : a.Result → Handler α} (h : ∀ x, Costs o c m (f x))
    (hn : a.price c + m ≤ n) : Costs o c n ((a.program o).bind f)

namespace Costs

variable {o : Orchestrator} {c : Nat} {α β : Type} {n m : ℕ∞} {p : Handler α} {f : α → Handler β}

theorem pure (a : α) : Costs o c n (Pure.pure a : Handler α) := .done n a

theorem mono (h : Costs o c n p) (hnm : n ≤ m) : Costs o c m p := by
  cases h with
  | done _ a => exact .done m a
  | act a h hn => exact .act a h (hn.trans hnm)

/-- Costs of programs in a row add up. -/
theorem bind (hp : Costs o c n p) (hf : ∀ a, Costs o c m (f a)) : Costs o c (n + m) (p >>= f) := by
  induction hp with
  | done n a => exact (hf a).mono (le_add_left le_rfl)
  | @act n k a g h hn ih =>
    show Costs o c (n + m) (((a.program o).bind g).bind f)
    rw [Prog.bind_assoc]
    refine .act a ih ?_
    rw [← add_assoc]
    exact add_le_add_left hn m

/-- A program that is free, and then one that may not be. -/
theorem free_bind (hp : Costs o c 0 p) (hf : ∀ a, Costs o c n (f a)) :
    Costs o c n (p >>= f) :=
  (hp.bind hf).mono (zero_add n).le

theorem bind_free (hp : Costs o c n p) (hf : ∀ a, Costs o c 0 (f a)) :
    Costs o c n (p >>= f) :=
  (hp.bind hf).mono (add_zero n).le

theorem single (a : Act) : Costs o c (a.price c) (a.program o) := by
  rw [← Prog.bind_done (a.program o)]
  exact .act a (fun x => .done 0 x) (add_zero _).le

end Costs

variable {o : Orchestrator} {c : Nat}

/-! ## What handlers have in common -/

theorem call_costs (call : Call) :
    Costs o c (2 * call.echo c : ℕ) (Orchestrator.call call) :=
  .single (.request (.call call))

/-- Only the executor's calls are reported on. -/
theorem inTurn_costs (key : String) {call : Call} (h : call.echo c = 0) :
    Costs o c 0 (inTurn key call) := by
  have hcall : Costs o c 0 (Orchestrator.call call) :=
    (call_costs call).mono (by rw [h]; exact le_rfl)
  refine Costs.free_bind (.single (.request (.acquire key))) fun _ => ?_
  refine Costs.free_bind hcall fun reply => ?_
  exact Costs.free_bind (.single (.request .release)) fun _ => .pure reply

theorem logAbout_costs (source : Source) (canonicalId : String) (level : LogLevel)
    (message : String) : Costs o c 0 (logAbout source canonicalId level message) :=
  .single (.request (.log ⟨level, message, source, canonicalId⟩))

theorem log_costs (key : JobKey) (level : LogLevel) (message : String) :
    Costs o c 0 (log key level message) :=
  logAbout_costs _ _ _ _

theorem logAll_costs (key : JobKey) (level : LogLevel) (messages : List String) :
    Costs o c 0 (logAll key level messages) := by
  induction messages with
  | nil => exact .pure ()
  | cons message rest ih => exact Costs.free_bind (log_costs _ _ _) fun _ => ih

theorem record_costs (key : JobKey) {state : QueueState} (h : state ≠ .starting) :
    Costs o c 1 (o.record key state) := by
  refine Costs.bind_free (.single (.record key state h)) fun reply => ?_
  split <;> exact .pure _

theorem conclude_costs (key : JobKey) {state : QueueState} (h : state ≠ .starting) :
    Costs o c 1 (o.conclude key state) :=
  Costs.bind_free (record_costs key h) fun _ => .pure ()

/-- A handler that records a state and logs it. -/
theorem report_costs (key : JobKey) {state : QueueState} (h : state ≠ .starting)
    {p : Handler Unit} (hp : Costs o c 0 p) :
    Costs o c 1 (o.record key state >>= fun b => if b then p else pure ()) := by
  refine Costs.bind_free (record_costs key h) fun b => ?_
  split
  · exact hp
  · exact .pure ()

theorem drain_costs : Costs o c 0 o.drain :=
  Costs.free_bind (.single .drain) fun _ => .pure ()

theorem hasBuildDefinition_costs (source : Source) (commit : CommitId) :
    Costs o c 0 (hasBuildDefinition source commit) := by
  refine Costs.free_bind (inTurn_costs _ rfl) fun reply => ?_
  split <;> exact .pure _

theorem invalidate_costs (source : Source) : Costs o c 0 (invalidate source) := by
  refine Costs.free_bind (inTurn_costs _ rfl) fun _ => ?_
  exact Costs.free_bind (inTurn_costs _ rfl) fun _ => .pure ()

/-! ## Changes -/

/-- A handler that pushes a job, and logs that if it was not queued already. -/
theorem enqueue_costs (key : JobKey) (message : String) :
    Costs o c ⊤ (ofLedger (o.ledger.push key) >>= fun
      | .error e => return .error e
      | .ok outcome => do
        if !outcome.duplicate then
          log key .info message
        return (.ok () : Except SchedulerError Unit)) := by
  refine Costs.bind_free (.single (.push key)) fun reply => ?_
  split
  · exact .pure _
  · split
    · exact Costs.free_bind (log_costs _ _ _) fun _ => .pure _
    · exact .pure _

theorem onUpdate_costs (u : Update) (message : String) (error : Option String) :
    Costs o c ⊤ (o.onUpdate u message error) := by
  unfold onUpdate
  split
  · exact .pure _
  · split
    · exact Costs.free_bind (log_costs _ _ _) fun _ => .pure _
    · refine Costs.free_bind (hasBuildDefinition_costs _ _) fun found => ?_
      split
      · exact enqueue_costs _ _
      · exact .pure _

theorem onBranchPush_costs (source : Source) (branch : String) (commit : CommitId) :
    Costs o c ⊤ (o.onBranchPush source branch commit) := by
  unfold onBranchPush
  split
  · refine Costs.free_bind (hasBuildDefinition_costs _ _) fun found => ?_
    split
    · exact enqueue_costs _ _
    · exact .pure _
  · exact .pure _

theorem onPush_costs (source : Source) (ref : GitRef) (commit : CommitId) :
    Costs o c ⊤ (o.onPush source ref commit) := by
  refine Costs.free_bind (invalidate_costs source) fun _ => ?_
  split
  · next tag =>
    split
    · exact Costs.free_bind (.single (.request (.background (.rescan source tag)))) fun _ =>
        .pure _
    · exact .pure _
  · exact onBranchPush_costs _ _ _

/-! ## Transitions -/

/-- The executor is called once, and a job that it refuses is ended. -/
theorem handOff_costs (key : JobKey) : Costs o c (2 * c + 1 : ℕ) (o.handOff key) := by
  refine Costs.free_bind (.single (.status key)) fun reply => ?_
  split
  · refine Costs.mono (Costs.bind (m := 1) (call_costs (.startJob key)) fun reply => ?_) le_rfl
    split
    · exact .pure ()
    · exact Costs.free_bind (log_costs _ _ _) fun _ => conclude_costs key (by decide)
  · exact .pure ()

/-- To end a job is not dearer than to hand it off. -/
theorem giveUp_costs (key : JobKey) {p : Handler Unit} (hp : Costs o c 0 p) {state : QueueState}
    (h : state ≠ .starting) :
    Costs o c (2 * c + 1 : ℕ) (p >>= fun _ => o.conclude key state) := by
  refine Costs.free_bind hp fun _ => (conclude_costs key h).mono ?_
  exact_mod_cast Nat.le_add_left 1 (2 * c)

theorem checkDependencies_costs (key : JobKey) :
    Costs o c (2 * c + 1 : ℕ) (o.checkDependencies key) := by
  refine Costs.free_bind (call_costs (.dependencyGraph key.source key.commit)) fun reply => ?_
  split
  · exact giveUp_costs key (log_costs _ _ _) (by decide)
  · split
    · exact handOff_costs key
    · exact giveUp_costs key (logAll_costs _ _ _) (by decide)

theorem prepareUpdate_costs (key : JobKey) (updateId target : String) :
    Costs o c (2 * c + 1 : ℕ) (o.prepareUpdate key updateId target) := by
  refine Costs.free_bind (inTurn_costs _ rfl) fun reply => ?_
  split
  · exact checkDependencies_costs key
  all_goals exact giveUp_costs key (log_costs _ _ _) (by decide)

theorem prepare_costs (key : JobKey) : Costs o c (2 * c + 1 : ℕ) (o.prepare key) := by
  unfold prepare
  split
  · exact prepareUpdate_costs key _ _
  · exact checkDependencies_costs key

theorem onTransition_costs (t : Transition) :
    Costs o c (t.weight c - 1 : ℕ) (o.onTransition t) := by
  unfold onTransition
  split
  · next hs =>
    have hw : t.weight c = 2 * c + 2 := if_pos hs
    rw [hw]
    exact prepare_costs t.key
  · exact drain_costs.mono zero_le
  · exact .pure ()
  · next hs =>
    split
    · next hsup =>
      have hw : t.weight c = 2 * c + 1 := by
        rw [Transition.weight, if_neg (by simp [hs]), if_pos ⟨hs, hsup⟩]
      rw [hw]
      exact Costs.bind_free (call_costs (.abortJob t.key)) fun _ => drain_costs
    · exact drain_costs.mono zero_le
  · exact drain_costs.mono zero_le

/-! ## Releases and reports -/

theorem openMaintenance_costs (source : Source) (head : CommitId) (version : Version)
    (bump : Bump) : Costs o c 0 (o.openMaintenance source head version bump) := by
  unfold openMaintenance
  split
  · exact inTurn_costs _ rfl
  · exact .pure _

theorem releaseAs_costs (source : Source) (branch : String) (bump : Bump) (canonicalId : String) :
    Costs o c 0 (o.releaseAs source branch bump canonicalId) := by
  refine Costs.free_bind (inTurn_costs _ rfl) fun version => ?_
  split
  · exact .pure _
  · refine Costs.free_bind (inTurn_costs _ rfl) fun head => ?_
    split
    · exact .pure _
    · refine Costs.free_bind (inTurn_costs _ rfl) fun tag => ?_
      split
      · exact .pure _
      · refine Costs.free_bind (openMaintenance_costs _ _ _ _) fun opened => ?_
        split
        · exact .pure _
        · exact Costs.free_bind (logAbout_costs _ _ _ _) fun _ => .pure _

theorem onLanded_costs (key : JobKey) (policy : RepositoryPolicy) (branch : String) :
    Costs o c 0 (o.onLanded key policy branch) := by
  unfold onLanded
  split
  · exact .pure ()
  · refine Costs.free_bind (releaseAs_costs _ _ _ _) fun reply => ?_
    split
    · exact .pure ()
    · exact log_costs _ _ _

theorem land_costs (key : JobKey) : Costs o c 0 (o.land key) := by
  unfold land
  split
  · exact .pure ()
  · split
    · split
      · refine Costs.free_bind (inTurn_costs _ rfl) fun reply => ?_
        split
        · exact Costs.free_bind (log_costs _ _ _) fun _ => onLanded_costs _ _ _
        · exact log_costs _ _ _
      · exact .pure ()
    · exact onLanded_costs _ _ _

theorem publish_costs (key : JobKey) : Costs o c 0 (o.publish key) := by
  have hverify : Costs o c 0 (o.verify key) := by
    refine Costs.free_bind (call_costs (.setValidBuild _ _ _)) fun reply => ?_
    split
    · exact land_costs key
    · exact log_costs _ _ _
  refine Costs.free_bind (call_costs (.publish key)) fun reply => ?_
  split
  · split
    · exact Costs.free_bind (log_costs _ _ _) fun _ => hverify
    · exact hverify
  · exact log_costs _ _ _

theorem onSuccess_costs (key : JobKey) : Costs o c 1 (o.onSuccess key) := by
  refine Costs.free_bind (.single (.status key)) fun reply => ?_
  split
  · refine report_costs key (by decide) ?_
    exact Costs.free_bind (log_costs _ _ _) fun _ => publish_costs key
  · exact .pure ()

theorem onAborted_costs (key : JobKey) : Costs o c 1 (o.onAborted key) := by
  refine Costs.free_bind (.single (.status key)) fun reply => ?_
  split
  · exact .pure ()
  · exact report_costs key (by decide) (log_costs _ _ _)

theorem onOutcome_costs (r : JobOutcome) : Costs o c 1 (o.onOutcome r) := by
  unfold onOutcome
  split
  · exact report_costs _ (by decide) (log_costs _ _ _)
  · exact report_costs _ (by decide) (log_costs _ _ _)
  · exact onSuccess_costs _
  · exact onAborted_costs _
  · exact report_costs _ (by decide) (log_costs _ _ _)

/-- An event brings about events that weigh less than it. -/
theorem handle_costs (o : Orchestrator) (c : Nat) (e : Event) :
    Costs o c (e.weight c - 1 : ℕ) (o.handle e) := by
  cases e with
  | transition t => exact onTransition_costs t
  | outcome r => exact onOutcome_costs r

/-- What is told from outside is handled by acts, at whatever cost. -/
theorem Occasion.costs (o : Orchestrator) (c : Nat) (x : Occasion) : Costs o c ⊤ (x.program o) := by
  cases x with
  | update u message error => exact Costs.bind_free (onUpdate_costs _ _ _) fun _ => .done _ ()
  | push source ref commit => exact Costs.bind_free (onPush_costs _ _ _) fun _ => .done _ ()
  | delete source =>
    refine Costs.bind_free ?_ fun _ => .done _ ()
    exact Costs.bind_free ((invalidate_costs source).mono le_top) fun _ => .pure _
  | outcome r => exact (onOutcome_costs r).mono le_top
  | timeout key => exact (report_costs key (by decide) (log_costs _ _ _)).mono le_top
  | release source branch bump =>
    exact Costs.bind_free ((releaseAs_costs _ _ _ _).mono le_top) fun _ => .done _ ()

end Orchestrator

end BuildQueue
