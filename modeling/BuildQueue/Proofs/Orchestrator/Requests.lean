import BuildQueue.Proofs.Ledger.Requests
import BuildQueue.Proofs.Orchestrator.Tasks

/-!
# What handlers ask for

Whatever a handler is answered, it uses the ledger lawfully; it posts an end of a job right after
its own swap was applied; it hands a job off right after it has read that the job is starting; and
only the handler of a success moves a job to SUCCESS or publishes it (`Duty.obeys`).
-/

namespace BuildQueue

namespace Orchestrator

/-- The calls that only some handlers may make. -/
def Reserved : Call → Prop
  | .publish _ | .startJob _ | .abortJob _ => True
  | _ => False

/-- What a handler may do: which jobs it may move to SUCCESS, and which reserved calls it may make
after which exchange. -/
structure Scope where
  succeeds : JobKey → Prop
  calls : Option (Exchange interface) → Call → Prop
  weaken : ∀ {last c}, calls none c → calls last c
  free : ∀ c, ¬ Reserved c → calls none c

/-- What a handler may ask for. -/
def Rule (o : Orchestrator) (sc : Scope) (last : Option (Exchange interface)) :
    interface.Request → Prop
  | .inl r => Ledger.Rule o.ledger.layout o.config.coordinator.concurrency.toNat
    (fun key state => state = .success → sc.succeeds key) (last.bind Exchange.inl?) r
  | .inr (.call c) => sc.calls last c
  | .inr _ => True

variable {o : Orchestrator} {sc : Scope} {last : Option (Exchange interface)}

theorem Rule.weaken {r : interface.Request} (h : o.Rule sc none r) : o.Rule sc last r := by
  rcases r with r | (key | _ | c | entry | c)
  · exact Ledger.Rule.weaken h
  · trivial
  · trivial
  · exact sc.weaken h
  all_goals trivial

theorem ofLedger_obeys {α : Type} {p : Prog Ledger.interface α}
    (h : ∀ last, p.Obeys (Ledger.Rule o.ledger.layout o.config.coordinator.concurrency.toNat
      fun key state => state = .success → sc.succeeds key) last) :
    (ofLedger p).Obeys (o.Rule sc) last :=
  .inl (fun _ _ h => h) (h _)

theorem bind_obeys {α β : Type} {p : Handler α} {f : α → Handler β}
    (hp : p.Obeys (o.Rule sc) last) (hf : ∀ a, (f a).Obeys (o.Rule sc) none) :
    (p >>= f).Obeys (o.Rule sc) last :=
  .bind Rule.weaken hp hf

theorem call_obeys {c : Call} (h : sc.calls none c) : (call c).Obeys (o.Rule sc) last :=
  ⟨sc.weaken h, fun _ => trivial⟩

theorem inTurn_obeys (key : String) {c : Call} (h : ¬ Reserved c) :
    (inTurn key c).Obeys (o.Rule sc) last :=
  ⟨trivial, fun _ => ⟨sc.weaken (sc.free c h), fun _ => ⟨trivial, fun _ => trivial⟩⟩⟩

theorem log_obeys (key : JobKey) (level : LogLevel) (message : String) :
    (log key level message).Obeys (o.Rule sc) last :=
  ⟨trivial, fun _ => trivial⟩

theorem record_obeys (key : JobKey) {state : QueueState} (hs : state ≠ .starting)
    (hm : state = .success → sc.succeeds key) :
    (o.record key state).Obeys (o.Rule sc) last := by
  refine bind_obeys (ofLedger_obeys fun _ => Ledger.apply_obeys hm hs false) fun reply => ?_
  split <;> exact .pure _

theorem conclude_obeys (key : JobKey) {state : QueueState} (hs : state ≠ .starting)
    (hm : state ≠ .success) : (o.conclude key state).Obeys (o.Rule sc) last :=
  bind_obeys (record_obeys key hs fun e => absurd e hm) fun _ => .pure _

/-- A handler that logs why a job ends, and ends it. -/
theorem giveUp_obeys (key : JobKey) (level : LogLevel) (message : String) {state : QueueState}
    (hs : state ≠ .starting) (hm : state ≠ .success) :
    (log key level message >>= fun _ => o.conclude key state).Obeys (o.Rule sc) last :=
  bind_obeys (log_obeys key level message) fun _ => conclude_obeys key hs hm

theorem drain_obeys : o.drain.Obeys (o.Rule sc) last :=
  bind_obeys (ofLedger_obeys fun _ => Ledger.start_obeys (Nat.le_refl _)) fun _ => .pure _

theorem push_obeys (key : JobKey) : (ofLedger (o.ledger.push key)).Obeys (o.Rule sc) last :=
  ofLedger_obeys fun _ => Ledger.push_obeys key (fun _ e => by cases e) fun _ e => by cases e

theorem hasBuildDefinition_obeys (source : Source) (commit : CommitId) :
    (hasBuildDefinition source commit).Obeys (o.Rule sc) last := by
  refine bind_obeys (inTurn_obeys _ id) fun reply => ?_
  split <;> exact .pure _

theorem invalidate_obeys (source : Source) : (invalidate source).Obeys (o.Rule sc) last :=
  bind_obeys (inTurn_obeys _ id) fun _ => bind_obeys (inTurn_obeys _ id) fun _ => .pure _

/-! ## Changes -/

theorem onUpdate_obeys (u : Update) (message : String) (error : Option String) :
    (o.onUpdate u message error).Obeys (o.Rule sc) last := by
  unfold onUpdate
  split
  · exact .pure _
  · split
    · exact bind_obeys (log_obeys _ _ _) fun _ => .pure _
    · refine bind_obeys (hasBuildDefinition_obeys _ _) fun found => ?_
      split
      · refine bind_obeys (push_obeys _) fun reply => ?_
        split
        · exact .pure _
        · split
          · exact bind_obeys (log_obeys _ _ _) fun _ => .pure _
          · exact .pure _
      · exact .pure _

theorem onBranchPush_obeys (source : Source) (branch : String) (commit : CommitId) :
    (o.onBranchPush source branch commit).Obeys (o.Rule sc) last := by
  unfold onBranchPush
  split
  · refine bind_obeys (hasBuildDefinition_obeys _ _) fun found => ?_
    split
    · refine bind_obeys (push_obeys _) fun reply => ?_
      split
      · exact .pure _
      · split
        · exact bind_obeys (log_obeys _ _ _) fun _ => .pure _
        · exact .pure _
    · exact .pure _
  · exact .pure _

theorem onPush_obeys (source : Source) (ref : GitRef) (commit : CommitId) :
    (o.onPush source ref commit).Obeys (o.Rule sc) last := by
  refine bind_obeys (invalidate_obeys source) fun _ => ?_
  split
  · split
    · exact ⟨trivial, fun _ => trivial⟩
    · exact .pure _
  · exact onBranchPush_obeys _ _ _

/-! ## Transitions -/

theorem logAll_obeys (key : JobKey) (level : LogLevel) (messages : List String) :
    (logAll key level messages).Obeys (o.Rule sc) last := by
  induction messages generalizing last with
  | nil => exact .pure _
  | cons message rest ih => exact bind_obeys (log_obeys _ _ _) fun _ => ih

section Prepare

variable {key : JobKey} (h : sc.calls (some ⟨.inl (.store (.status (o.ledger.layout.status key))),
  .ok (some QueueState.starting.name)⟩) (.startJob key))
include h

/-- The executor is called right after the status was read. -/
theorem handOff_obeys : (o.handOff key).Obeys (o.Rule sc) last := by
  rw [handOff, Ledger.status_eq]
  refine ⟨⟨trivial, fun _ _ _ e => by cases e⟩, fun (answer : Except _ _) => ?_⟩
  show Prog.Obeys _ _ (Prog.bind (.done _) _)
  rw [Prog.done_bind]
  split
  · next hr =>
    rw [Ledger.eq_ok_of_bind_readState hr]
    refine ⟨h, fun reply => ?_⟩
    cases reply with
    | ok _ => exact .pure _
    | error e => exact giveUp_obeys key _ _ (by decide) (by decide)
  · exact .pure _

theorem checkDependencies_obeys : (o.checkDependencies key).Obeys (o.Rule sc) last := by
  refine bind_obeys (call_obeys (sc.free _ id)) fun reply => ?_
  split
  · exact giveUp_obeys key _ _ (by decide) (by decide)
  · split
    · exact handOff_obeys h
    · exact bind_obeys (logAll_obeys _ _ _) fun _ => conclude_obeys key (by decide) (by decide)

theorem prepareUpdate_obeys (updateId target : String) :
    (o.prepareUpdate key updateId target).Obeys (o.Rule sc) last := by
  refine bind_obeys (inTurn_obeys _ id) fun reply => ?_
  split
  · exact checkDependencies_obeys h
  all_goals exact giveUp_obeys key _ _ (by decide) (by decide)

theorem prepare_obeys : (o.prepare key).Obeys (o.Rule sc) last := by
  unfold prepare
  split
  · exact prepareUpdate_obeys h _ _
  · exact checkDependencies_obeys h

end Prepare

theorem onTransition_obeys {t : Transition}
    (hstart : sc.calls (some ⟨.inl (.store (.status (o.ledger.layout.status t.key))),
      .ok (some QueueState.starting.name)⟩) (.startJob t.key))
    (habort : t.state = .aborted → t.superseded = true → sc.calls none (.abortJob t.key)) :
    (o.onTransition t).Obeys (o.Rule sc) last := by
  unfold onTransition
  split
  · exact prepare_obeys hstart
  · exact drain_obeys
  · exact .pure _
  · next hs =>
    split
    · next hsup => exact bind_obeys (call_obeys (habort hs hsup)) fun _ => drain_obeys
    · exact drain_obeys
  · exact drain_obeys

/-! ## Releases -/

theorem openMaintenance_obeys (source : Source) (head : CommitId) (version : Version)
    (bump : Bump) : (o.openMaintenance source head version bump).Obeys (o.Rule sc) last := by
  unfold openMaintenance
  split
  · exact inTurn_obeys _ id
  · exact .pure _

theorem releaseAs_obeys (source : Source) (branch : String) (bump : Bump) (canonicalId : String) :
    (o.releaseAs source branch bump canonicalId).Obeys (o.Rule sc) last := by
  refine bind_obeys (inTurn_obeys _ id) fun version => ?_
  split
  · exact .pure _
  · refine bind_obeys (inTurn_obeys _ id) fun head => ?_
    split
    · exact .pure _
    · refine bind_obeys (inTurn_obeys _ id) fun tag => ?_
      split
      · exact .pure _
      · refine bind_obeys (openMaintenance_obeys _ _ _ _) fun opened => ?_
        split
        · exact .pure _
        · exact bind_obeys ⟨trivial, fun _ => trivial⟩ fun _ => .pure _

/-! ## Reports of the executor -/

/-- A handler that records a state and logs it. -/
theorem report_obeys (key : JobKey) {state : QueueState} (hs : state ≠ .starting)
    (hm : state ≠ .success) {p : Handler Unit} (hp : ∀ last, p.Obeys (o.Rule sc) last) :
    (o.record key state >>= fun b => if b then p else pure ()).Obeys (o.Rule sc) last := by
  refine bind_obeys (record_obeys key hs fun e => absurd e hm) fun b => ?_
  split
  · exact hp _
  · exact .pure _

theorem onLanded_obeys (key : JobKey) (policy : RepositoryPolicy) (branch : String) :
    (o.onLanded key policy branch).Obeys (o.Rule sc) last := by
  unfold onLanded
  split
  · exact .pure _
  · refine bind_obeys (releaseAs_obeys _ _ _ _) fun reply => ?_
    split
    · exact .pure _
    · exact log_obeys _ _ _

theorem land_obeys (key : JobKey) : (o.land key).Obeys (o.Rule sc) last := by
  unfold land
  split
  · exact .pure _
  · split
    · split
      · refine bind_obeys (inTurn_obeys _ id) fun reply => ?_
        split
        · exact bind_obeys (log_obeys _ _ _) fun _ => onLanded_obeys _ _ _
        · exact log_obeys _ _ _
      · exact .pure _
    · exact onLanded_obeys _ _ _

theorem verify_obeys (key : JobKey) : (o.verify key).Obeys (o.Rule sc) last := by
  refine bind_obeys (call_obeys (sc.free _ id)) fun reply => ?_
  split
  · exact land_obeys key
  · exact log_obeys _ _ _

theorem publish_obeys {key : JobKey} (h : sc.calls none (.publish key)) :
    (o.publish key).Obeys (o.Rule sc) last := by
  refine bind_obeys (call_obeys h) fun reply => ?_
  split
  · split
    · exact bind_obeys (log_obeys _ _ _) fun _ => verify_obeys key
    · exact verify_obeys key
  · exact log_obeys _ _ _

theorem onSuccess_obeys {key : JobKey} (hm : sc.succeeds key) (h : sc.calls none (.publish key)) :
    (o.onSuccess key).Obeys (o.Rule sc) last := by
  refine bind_obeys (ofLedger_obeys fun _ => Ledger.status_obeys key) fun reply => ?_
  split
  · refine bind_obeys (record_obeys key (by decide) fun _ => hm) fun b => ?_
    split
    · exact bind_obeys (log_obeys _ _ _) fun _ => publish_obeys h
    · exact .pure _
  · exact .pure _

theorem onAborted_obeys (key : JobKey) : (o.onAborted key).Obeys (o.Rule sc) last := by
  refine bind_obeys (ofLedger_obeys fun _ => Ledger.status_obeys key) fun reply => ?_
  split
  · exact .pure _
  · exact report_obeys key (by decide) (by decide) fun _ => log_obeys _ _ _

theorem onOutcome_obeys {r : JobOutcome}
    (h : r.kind = .success → sc.succeeds r.key ∧ sc.calls none (.publish r.key)) :
    (o.onOutcome r).Obeys (o.Rule sc) last := by
  unfold onOutcome
  split
  · exact report_obeys _ (by decide) (by decide) fun _ => log_obeys _ _ _
  · exact report_obeys _ (by decide) (by decide) fun _ => log_obeys _ _ _
  · next hk => exact onSuccess_obeys (h hk).1 (h hk).2
  · exact onAborted_obeys _
  · exact report_obeys _ (by decide) (by decide) fun _ => log_obeys _ _ _

/-- What the handler of a duty may do. -/
def Duty.scope (o : Orchestrator) (duty : Duty) : Scope where
  succeeds key := duty = .occasion (.outcome ⟨.success, key⟩)
  calls last
    | .publish key => duty = .occasion (.outcome ⟨.success, key⟩)
    | .startJob key => last = some ⟨.inl (.store (.status (o.ledger.layout.status key))),
        .ok (some QueueState.starting.name)⟩
    | .abortJob key => ∃ t, duty = .transition t ∧ t.key = key ∧ t.state = .aborted
    | _ => True
  weaken {last c} h := by
    cases c <;> first | exact h | cases h
  free c h := by
    cases c <;> first | exact absurd trivial h | trivial

/-- A handler asks for nothing but what its duty allows. -/
theorem Duty.obeys (o : Orchestrator) (duty : Duty) :
    (duty.program o).Obeys (o.Rule (duty.scope o)) none := by
  cases duty with
  | occasion x =>
    cases x with
    | update u message error => exact bind_obeys (onUpdate_obeys _ _ _) fun _ => .pure _
    | push source ref commit => exact bind_obeys (onPush_obeys _ _ _) fun _ => .pure _
    | delete source =>
      exact bind_obeys (bind_obeys (invalidate_obeys source) fun _ => .pure _) fun _ => .pure _
    | outcome r =>
      obtain ⟨kind, key⟩ := r
      exact onOutcome_obeys fun e => by cases e; exact ⟨rfl, rfl⟩
    | timeout key => exact report_obeys _ (by decide) (by decide) fun _ => log_obeys _ _ _
    | release source branch bump => exact bind_obeys (releaseAs_obeys _ _ _ _) fun _ => .pure _
  | transition t => exact onTransition_obeys rfl fun hs _ => ⟨t, rfl, rfl, hs⟩

end Orchestrator

end BuildQueue
