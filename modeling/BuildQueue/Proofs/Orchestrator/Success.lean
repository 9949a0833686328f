import BuildQueue.Proofs.Orchestrator.Course
import BuildQueue.Proofs.Orchestrator.Journal
import Mathlib.Algebra.BigOperators.Group.Finset.Piecewise
import Mathlib.Algebra.Order.BigOperators.Group.Finset

/-!
# What follows a success

A job is published, verified, merged and released only by the task whose own swap has moved it to
SUCCESS, and that task publishes it once (`onSuccess_path`) and goes along the pipeline to its end
or to the first call that fails (`onSuccess_pursued`). So, whatever happens at the same time, a job
is published as often as its status has become SUCCESS, and that is once at most for each time that
it was admitted (`System.success_effects`).
-/

namespace BuildQueue

/-- Where a call stands in the row of those that follow a success. -/
def Call.stage : Call → Nat
  | .publish _ => 0
  | .setValidBuild .. => 1
  | .merge .. => 2
  | .nextVersion .. => 3
  | .branchHead .. => 4
  | .createTag .. => 5
  | .createBranch .. => 6
  | _ => 7

namespace Orchestrator

/-- The swap that the store has applied, if the exchange is about one. -/
def applied? (x : Exchange interface) : Option StatusSwap := x.inl?.bind Ledger.applied?

/-- The exchange is a call that publishes the job. -/
def publishes (key : JobKey) (x : Exchange interface) : Bool := call? x = some (.publish key)

/-- The store has moved the job to SUCCESS in the exchange. -/
def succeeds (key : JobKey) (x : Exchange interface) : Bool :=
  (applied? x).any fun change =>
    change.job = key.text && change.next = QueueState.success.name

variable {o : Orchestrator} {key : JobKey} {trace : List (Exchange interface)}

/-! ## Recording a state -/

theorem applied?_map_inl (trace : List (Exchange Ledger.interface)) :
    (trace.map Exchange.inl).filterMap applied? = trace.filterMap Ledger.applied? := by
  rw [List.filterMap_map]
  rfl

/-- Where nothing is done, nobody is called. -/
theorem calls_eq_nil (h : deedsOf trace = []) : trace.filterMap call? = [] := by
  refine List.filterMap_eq_nil_iff.2 fun x hx => ?_
  have hdeed : deed? x = none := List.filterMap_eq_nil_iff.1 h x hx
  obtain ⟨r | r, reply⟩ := x
  · rfl
  · cases r with
    | call c => cases hdeed
    | _ => rfl

theorem record_eq (key : JobKey) (state : QueueState) :
    o.record key state = (ofLedger (o.ledger.addState key state)).bind fun r => .done r.isOk := by
  refine congrArg (Prog.bind _) (funext fun r => ?_)
  cases r <;> rfl

/-- A state is recorded with one swap applied, or is not with none; nothing else is done. -/
theorem record_path {state : QueueState} {q : Handler Bool}
    (h : (o.record key state).Path trace q) : deedsOf trace = [] ∧
      ((trace.filterMap applied? = [] ∧ ∀ b, q = .done b → b = false) ∨
        ∃ current : QueueState, current.canBecome state = true ∧
          trace.filterMap applied? = [o.ledger.swapOf key current state] ∧
          ∀ b, q = .done b → b = true) := by
  rw [record_eq] at h
  obtain ⟨p', hp', hq⟩ := h.map_inv
  obtain ⟨trace, p, rfl, rfl, hp⟩ := hp'.of_inl
  have hdone : ∀ b, q = .done b → ∃ r, p = .done r ∧ b = r.isOk := fun b e => by
    obtain ⟨r, hr, rfl⟩ := hq b e
    cases p with
    | done _ => exact ⟨r, congrArg Prog.done (Prog.done.inj hr), rfl⟩
    | ask _ _ => cases hr
  rw [applied?_map_inl]
  refine ⟨deedsOf_map_inl _, ?_⟩
  obtain ⟨hs, hfail⟩ | ⟨current, hc, hs, hok⟩ := Ledger.apply_path hp
  · refine .inl ⟨hs, fun b e => ?_⟩
    obtain ⟨r, hr, rfl⟩ := hdone b e
    obtain ⟨_, rfl⟩ := hfail r hr
    rfl
  · refine .inr ⟨current, hc, hs, fun b e => ?_⟩
    obtain ⟨r, hr, rfl⟩ := hdone b e
    obtain ⟨_, rfl⟩ := hok r hr
    rfl

/-! ## Effects in their order -/

/-- The program asks nothing of the ledger, and makes calls of the stages from `lo` to `hi` in their
order, each stage once at most. -/
def Staged {α : Type} : Nat → Nat → Handler α → Prop
  | lo, hi, .done _ => lo ≤ hi
  | _, _, .ask (.inl _) _ => False
  | lo, hi, .ask (.inr (.call c)) next => lo ≤ c.stage ∧ ∀ x, Staged (c.stage + 1) hi (next x)
  | lo, hi, .ask (.inr _) next => ∀ x, Staged lo hi (next x)

namespace Staged

variable {α β : Type} {lo mid hi : Nat}

theorem weaken {p : Handler α} (h : Staged mid hi p) (hlo : lo ≤ mid) : Staged lo hi p := by
  induction p with
  | done a => exact hlo.trans h
  | ask r next ih =>
    cases r with
    | inl r => exact h
    | inr r =>
      cases r with
      | call c => exact ⟨hlo.trans h.1, h.2⟩
      | _ => exact fun x => ih x (h x)

theorem bind {p : Handler α} {f : α → Handler β} (mid : Nat) (hp : Staged lo mid p)
    (hf : ∀ a, Staged mid hi (f a)) : Staged lo hi (p >>= f) := by
  induction p generalizing lo with
  | done a => exact (hf a).weaken hp
  | ask r next ih =>
    cases r with
    | inl r => exact hp
    | inr r =>
      cases r with
      | call c => exact ⟨hp.1, fun x => ih x (hp.2 x)⟩
      | _ => exact fun x => ih x (hp x)

theorem call {c : Call} (h : c.stage = lo) : Staged lo (lo + 1) (call c) :=
  ⟨h.ge, fun _ => h ▸ Nat.le_refl _⟩

theorem inTurn (key : String) {c : Call} (h : c.stage = lo) : Staged lo (lo + 1) (inTurn key c) :=
  fun _ => ⟨h.ge, fun _ _ => h ▸ Nat.le_refl (c.stage + 1)⟩

theorem log (key : JobKey) (level : LogLevel) (message : String) (h : lo ≤ hi) :
    Staged lo hi (log key level message) := fun _ => h

/-- Along a path, stages grow. -/
theorem path {p q : Handler α} (hp : Staged lo hi p) (h : p.Path trace q) :
    trace.filterMap applied? = [] ∧
      (trace.filterMap call?).Pairwise (fun c d => c.stage < d.stage) ∧
      ∀ c ∈ trace.filterMap call?, lo ≤ c.stage := by
  induction h generalizing lo with
  | nil p => exact ⟨rfl, .nil, fun c hc => absurd hc List.not_mem_nil⟩
  | @cons r next x trace q _ ih =>
    cases r with
    | inl r => exact hp.elim
    | inr r =>
      cases r with
      | call c =>
        obtain ⟨ha, hpw, hlo⟩ := ih (hp.2 x)
        refine ⟨ha, List.pairwise_cons.2 ⟨hlo, hpw⟩,
          List.forall_mem_cons.2 ⟨hp.1, fun d hd => ?_⟩⟩
        exact hp.1.trans (Nat.le_of_succ_le (hlo d hd))
      | _ => exact ih (hp x)

end Staged

theorem releaseAs_staged (source : Source) (branch : String) (bump : Bump) (canonicalId : String) :
    Staged 3 7 (o.releaseAs source branch bump canonicalId) := by
  refine .bind 4 (.inTurn _ rfl) fun version => ?_
  split
  · exact (by decide : 4 ≤ 7)
  · refine .bind 5 (.inTurn _ rfl) fun head => ?_
    split
    · exact (by decide : 5 ≤ 7)
    · refine .bind 6 (.inTurn _ rfl) fun tag => ?_
      split
      · exact (by decide : 6 ≤ 7)
      · refine .bind 7 ?_ fun opened => ?_
        · unfold openMaintenance
          split
          · exact .inTurn _ rfl
          · exact (by decide : 6 ≤ 7)
        · split
          · exact Nat.le_refl 7
          · exact fun _ => Nat.le_refl 7

theorem onLanded_staged (policy : RepositoryPolicy) (branch : String) :
    Staged 3 7 (o.onLanded key policy branch) := by
  unfold onLanded
  split
  · exact (by decide : 3 ≤ 7)
  · refine .bind 7 (releaseAs_staged _ _ _ _) fun reply => ?_
    split
    · exact Nat.le_refl 7
    · exact .log _ _ _ (Nat.le_refl 7)

theorem land_staged : Staged 2 7 (o.land key) := by
  unfold land
  split
  · exact (by decide : 2 ≤ 7)
  · split
    · split
      · refine .bind 3 (.inTurn _ rfl) fun reply => ?_
        split
        · exact .bind 3 (.log _ _ _ (Nat.le_refl 3)) fun _ => onLanded_staged _ _
        · exact .log _ _ _ (by decide)
      · exact (by decide : 2 ≤ 7)
    · exact (onLanded_staged _ _).weaken (by decide)

theorem verify_staged : Staged 1 7 (o.verify key) := by
  refine .bind 2 (.call rfl) fun reply => ?_
  split
  · exact land_staged
  · exact .log _ _ _ (by decide)

theorem publish_staged : Staged 0 7 (o.publish key) := by
  refine .bind 1 (.call rfl) fun reply => ?_
  split
  · split
    · exact .bind 1 (.log _ _ _ (Nat.le_refl 1)) fun _ => verify_staged
    · exact verify_staged
  · exact .log _ _ _ (by decide)

/-! ## The handler of a success -/

/-- What a handler of a success has done when `rest` is left of it. -/
inductive SuccessTrace (o : Orchestrator) (key : JobKey) (trace : List (Exchange interface))
    (rest : Handler Unit) : Prop where
  /-- It has moved nothing and done nothing. -/
  | waiting (applied : trace.filterMap applied? = []) (deeds : deedsOf trace = [])
  /-- It has moved the job to SUCCESS, and makes its calls in their order. -/
  | accepted (applied : trace.filterMap applied? = [o.ledger.swapOf key .started .success])
    (staged : (trace.filterMap call?).Pairwise fun c d => c.stage < d.stage)
    (published : rest = .done () → .publish key ∈ trace.filterMap call?)

/-- An accepted success has the job published in any case. -/
theorem publish_path {rest : Handler Unit}
    (h : (log key .info "Build succeeded." >>= fun _ => o.publish key).Path trace rest) :
    trace.filterMap applied? = [] ∧
      (trace.filterMap call?).Pairwise (fun c d => c.stage < d.stage) ∧
      (rest = .done () → .publish key ∈ trace.filterMap call?) := by
  have hstaged : Staged 0 7 (log key .info "Build succeeded." >>= fun _ => o.publish key) :=
    fun _ => publish_staged
  obtain ⟨ha, hpw, -⟩ := hstaged.path h
  refine ⟨ha, hpw, fun hq => ?_⟩
  obtain ⟨rfl, rfl⟩ | ⟨_, second, rfl, hpub⟩ := Prog.Path.ask_inv h
  · cases hq
  obtain ⟨rfl, rfl⟩ | ⟨reply, third, rfl, -⟩ := Prog.Path.ask_inv hpub
  · cases hq
  · exact List.mem_cons_self

theorem started_of_canBecome_success {current : QueueState}
    (h : current.canBecome .success = true) : current = .started := by
  revert h
  cases current <;> decide

/-- Only after SUCCESS has been recorded is anybody called. -/
theorem recordSuccess_path {rest : Handler Unit}
    (h : (o.record key .success >>= fun b =>
      if b then log key .info "Build succeeded." >>= fun _ => o.publish key
      else pure ()).Path trace rest) : SuccessTrace o key trace rest := by
  obtain ⟨p, hp, rfl⟩ | ⟨first, second, b, rfl, hp, hf⟩ := Prog.Path.bind_inv h
  · obtain ⟨hd, ⟨ha, -⟩ | ⟨current, hcan, ha, hb⟩⟩ := record_path hp
    · exact .waiting ha hd
    · obtain rfl := started_of_canBecome_success hcan
      refine .accepted ha (calls_eq_nil hd ▸ .nil) fun hq => ?_
      -- The swap is applied, so recording is over or goes on, and publishing is still to come.
      cases p with
      | ask r next => cases hq
      | done b =>
        obtain rfl := hb b rfl
        cases hq
  · obtain ⟨hd, ⟨ha, hb⟩ | ⟨current, hcan, ha, hb⟩⟩ := record_path hp
    · obtain rfl := hb b rfl
      obtain ⟨rfl, -⟩ := Prog.Path.done_inv hf
      rw [List.append_nil]
      exact .waiting ha hd
    · obtain rfl := hb b rfl
      obtain rfl := started_of_canBecome_success hcan
      obtain ⟨hs, hpw, hdone⟩ := publish_path hf
      have hcalls : (first ++ second).filterMap call? = second.filterMap call? := by
        rw [List.filterMap_append, calls_eq_nil hd, List.nil_append]
      refine .accepted ?_ (hcalls ▸ hpw) (hcalls ▸ hdone)
      rw [List.filterMap_append, ha, hs, List.append_nil]

/-- Nothing is called before the job has been moved from STARTED to SUCCESS, and then all calls are
made in their order. -/
theorem onSuccess_path {rest : Handler Unit} (h : (o.onSuccess key).Path trace rest) :
    SuccessTrace o key trace rest := by
  rw [onSuccess, Ledger.status_eq] at h
  obtain ⟨rfl, rfl⟩ | ⟨answer, second, rfl, hsecond⟩ := Prog.Path.ask_inv h
  · exact .waiting rfl rfl
  change Prog.Path (Prog.bind (.done _) _) second rest at hsecond
  rw [Prog.done_bind] at hsecond
  split at hsecond
  · cases recordSuccess_path hsecond with
    | waiting ha hd => exact .waiting ha hd
    | accepted ha hpw hdone => exact .accepted ha hpw hdone
  · obtain ⟨rfl, -⟩ := Prog.Path.done_inv hsecond
    exact .waiting rfl rfl

theorem recordSuccess_pursued (h : (o.record key .success >>= fun b =>
      if b then log key .info "Build succeeded." >>= fun _ => o.publish key
      else pure ()).Path trace (.done ())) (happ : trace.filterMap applied? ≠ []) :
    Pursued o key (deedsOf trace) := by
  obtain ⟨first, second, b, rfl, hrecord, hrest⟩ := h.bind_done_inv
  obtain ⟨hdeeds, ⟨ha, hb⟩ | ⟨-, -, -, hb⟩⟩ := record_path hrecord
  · obtain rfl := hb b rfl
    obtain ⟨rfl, -⟩ := Prog.Path.pure_inv hrest
    exact absurd ((List.append_nil first).symm ▸ ha) happ
  · obtain rfl := hb b rfl
    obtain ⟨third, fourth, _, rfl, hlog, hpublish⟩ := Prog.Path.bind_done_inv hrest
    obtain ⟨f, hcourse⟩ := publish_course hpublish
    refine ⟨f, deedsOf fourth, ?_, hcourse⟩
    rw [deedsOf_append, hdeeds, deedsOf_append, deedsOf_log hlog]
    rfl

/-- A handler that is done and has moved the job to SUCCESS has gone along the pipeline. -/
theorem onSuccess_pursued (h : (o.onSuccess key).Path trace (.done ()))
    (happ : trace.filterMap applied? ≠ []) : Pursued o key (deedsOf trace) := by
  rw [onSuccess, Ledger.status_eq] at h
  obtain ⟨answer, second, rfl, hsecond⟩ := Prog.Path.ask_done_inv h
  change Prog.Path (Prog.bind (.done _) _) second (.done ()) at hsecond
  rw [Prog.done_bind] at hsecond
  split at hsecond
  · show Pursued o key (deedsOf second)
    exact recordSuccess_pursued hsecond happ
  · obtain ⟨rfl, -⟩ := Prog.Path.pure_inv hsecond
    exact absurd rfl happ

/-- One that has moved the job to SUCCESS and is still under way is on the pipeline: however it is
brought to its end, it will have gone along it. -/
theorem onSuccess_underway {rest : Handler Unit} (h : (o.onSuccess key).Path trace rest)
    (happ : trace.filterMap applied? ≠ []) : ∃ more, Pursued o key (deedsOf trace ++ more) := by
  obtain ⟨more, _, hmore⟩ := rest.exists_path_done
  refine ⟨deedsOf more, ?_⟩
  rw [← deedsOf_append]
  refine onSuccess_pursued (h.append hmore) fun e => ?_
  rw [List.filterMap_append] at e
  exact happ (List.append_eq_nil_iff.1 e).1

/-! ## Writes of SUCCESS -/

section Rule

variable {sc : Scope} {last : Option (Exchange interface)} {x : Exchange interface}

theorem eq_of_applied? {change : StatusSwap} (h : applied? x = some change) :
    ∃ pools ttl held, x = ⟨.inl (.store (.swap pools change ttl)), .ok (.applied held)⟩ := by
  obtain ⟨r | r, reply⟩ := x
  · obtain ⟨pools, ttl, held, e⟩ := Ledger.eq_of_applied? (x := ⟨r, reply⟩) h
    cases e
    exact ⟨pools, ttl, held, rfl⟩
  · cases h

/-- An applied swap is a write of the status of its job, and of no other job. -/
theorem written?_of_applied? (h : o.Rule sc last x.request) {change : StatusSwap}
    (ha : applied? x = some change) : written? (o.ledger.layout.status key) x =
      if key.text = change.job then some (.swapped change.expected change.next) else none := by
  obtain ⟨pools, ttl, held, rfl⟩ := eq_of_applied? ha
  obtain ⟨⟨rfl, -⟩, -⟩ := h
  simp only [written?, KeyLayout.status, InProcess.status_inj]

/-- Without an applied swap, what is written is QUEUED or STARTING. -/
theorem written?_of_not_applied? {name : String} {w : StatusWrite} (ha : applied? x = none)
    (hw : written? name x = some w) : w = .queued ∨ w = .admitted := by
  obtain ⟨r, reply⟩ := x
  rcases r with (c | t) | (_ | _ | c | entry | c)
  · cases c with
    | push queue pools job label ttl =>
      cases reply with
      | error e => cases hw
      | ok reply => exact .inl (Option.some.inj (Option.ite_none_right_eq_some.1 hw).2).symm
    | start pools max ttl =>
      cases reply with
      | error e => cases hw
      | ok reply => exact .inr (Option.some.inj (Option.ite_none_right_eq_some.1 hw).2).symm
    | swap pools change ttl =>
      rcases reply with e | held | found
      · cases hw
      · cases ha
      · cases hw
    | status name => cases hw
    | pool pools which => cases hw
  all_goals cases hw

theorem succeeds_iff : succeeds key x = true ↔ ∃ change, applied? x = some change ∧
    change.job = key.text ∧ change.next = QueueState.success.name := by
  simp [succeeds, Option.any_eq_true]

/-- The status of a job becomes SUCCESS where the store has moved the job there. -/
theorem any_written?_success (h : o.Rule sc last x.request) :
    (written? (o.ledger.layout.status key) x).any (·.text = QueueState.success.name) =
      succeeds key x := by
  rw [Bool.eq_iff_iff, succeeds_iff, Option.any_eq_true]
  constructor
  · rintro ⟨w, hw, htext⟩
    cases ha : applied? x with
    | some change =>
      rw [written?_of_applied? h ha] at hw
      obtain ⟨hk, e⟩ := Option.ite_none_right_eq_some.1 hw
      cases e
      exact ⟨change, rfl, hk.symm, of_decide_eq_true htext⟩
    | none => rcases written?_of_not_applied? ha hw with rfl | rfl <;> cases htext
  · rintro ⟨change, ha, hk, hn⟩
    rw [written?_of_applied? h ha, if_pos hk.symm]
    exact ⟨_, rfl, decide_eq_true hn⟩

/-- Only a handler that may do so moves a job to SUCCESS. -/
theorem succeeds_of_rule (h : o.Rule sc last x.request) (hx : succeeds key x = true) :
    sc.succeeds key := by
  obtain ⟨change, ha, hk, hn⟩ := succeeds_iff.1 hx
  obtain ⟨pools, ttl, held, rfl⟩ := eq_of_applied? ha
  obtain ⟨l, key', current, next, -, rfl, hm⟩ := h.2 _ _ _ rfl
  obtain rfl : key' = key := JobKey.text_inj hk
  exact hm (QueueState.name_inj hn)

end Rule

namespace System

variable {s : System} {events : List Event}

/-- What is counted in the journal is counted task by task. -/
theorem Sound.countP_journal (hs : Sound o s) (p : Exchange interface → Bool) :
    s.journal.countP (fun entry => p entry.2) =
      ∑ n ∈ Finset.range s.tasks.length, (s.trace n).countP p := by
  unfold trace
  have hknown := hs.known
  generalize s.journal = journal at hknown
  induction journal with
  | nil => simp
  | cons entry journal ih =>
    obtain ⟨hlt, hrest⟩ := List.forall_mem_cons.1 hknown
    have hcons : ∀ n, ((entry :: journal).filterMap fun entry =>
        if entry.1 = n then some entry.2 else none).countP p =
          (journal.filterMap fun entry => if entry.1 = n then some entry.2 else none).countP p +
            if entry.1 = n then (if p entry.2 = true then 1 else 0) else 0 := fun n => by
      by_cases hn : entry.1 = n <;> simp [hn, List.countP_cons]
    simp only [hcons, Finset.sum_add_distrib, Finset.sum_ite_eq, Finset.mem_range, hlt, if_true,
      ← ih hrest, List.countP_cons]

theorem countP_publishes (trace : List (Exchange interface)) :
    trace.countP (publishes key) = (trace.filterMap call?).count (.publish key) := by
  rw [List.count, List.countP_filterMap]
  refine List.countP_congr fun x _ => ?_
  cases h : call? x <;> simp [publishes, h]

theorem countP_succeeds (trace : List (Exchange interface)) :
    trace.countP (succeeds key) = (trace.filterMap applied?).countP fun change =>
      change.job = key.text && change.next = QueueState.success.name := by
  rw [List.countP_filterMap]
  refine List.countP_congr fun x _ => ?_
  cases h : applied? x <;> simp [succeeds, h]

theorem Sound.successTrace (hs : Sound o s) {n : Nat} {rest : Handler Unit}
    (h : s.tasks[n]? = some ⟨.occasion (.outcome ⟨.success, key⟩), rest⟩) :
    SuccessTrace o key (s.trace n) rest :=
  onSuccess_path (hs.path n _ h)

/-- Nobody but the handler of a job's success moves the job to SUCCESS or publishes it. -/
theorem Sound.countP_eq_zero (hs : Sound o s) {n : Nat} {task : Task}
    (h : s.tasks[n]? = some task) (hd : task.duty ≠ .occasion (.outcome ⟨.success, key⟩)) :
    (s.trace n).countP (publishes key) = 0 ∧ (s.trace n).countP (succeeds key) = 0 := by
  constructor
  · refine List.countP_eq_zero.2 fun x hx hp => ?_
    obtain ⟨before, after, e⟩ := List.append_of_mem hx
    exact hd (calls_of_rule (hs.rule_of_mem h e) (of_decide_eq_true hp))
  · refine List.countP_eq_zero.2 fun x hx hp => ?_
    obtain ⟨before, after, e⟩ := List.append_of_mem hx
    exact hd (succeeds_of_rule (hs.rule_of_mem h e) hp)

/-- A task publishes a job no more often than it has moved it to SUCCESS, and as often when it is
done. -/
theorem Sound.countP_publishes_le (hs : Sound o s) (key : JobKey) (n : Nat) :
    (s.trace n).countP (publishes key) ≤ (s.trace n).countP (succeeds key) ∧
      ((∀ task ∈ s.tasks, task.rest = .done ()) →
        (s.trace n).countP (publishes key) = (s.trace n).countP (succeeds key)) := by
  cases h : s.tasks[n]? with
  | none =>
    rw [hs.trace_eq_nil (List.getElem?_eq_none_iff.1 h)]
    exact ⟨Nat.le_refl _, fun _ => rfl⟩
  | some task =>
    obtain ⟨duty, rest⟩ := task
    by_cases hd : duty = .occasion (.outcome ⟨.success, key⟩)
    · subst hd
      rw [countP_publishes, countP_succeeds]
      obtain ⟨ha, hc⟩ | ⟨ha, hpw, hdone⟩ := hs.successTrace h
      · rw [ha, calls_eq_nil hc]
        exact ⟨Nat.le_refl _, fun _ => rfl⟩
      · have hnodup : ((s.trace n).filterMap call?).Nodup :=
          hpw.imp fun hlt e => Nat.ne_of_lt hlt (congrArg Call.stage e)
        have hone : [o.ledger.swapOf key .started .success].countP (fun change =>
            change.job = key.text && change.next = QueueState.success.name) = 1 := by
          simp [Ledger.swapOf]
        rw [ha, hone]
        have hle := List.nodup_iff_count_le_one.1 hnodup (.publish key)
        refine ⟨hle, fun hall => Nat.le_antisymm hle ?_⟩
        exact List.one_le_count_iff.2 (hdone (hall _ (List.mem_of_getElem? h)))
    · obtain ⟨hp, hc⟩ := hs.countP_eq_zero h hd
      rw [hp, hc]
      exact ⟨Nat.le_refl _, fun _ => rfl⟩

theorem Sound.countP_succeeds_journal (events : List Event) (key : JobKey) :
    (({} : System).run o events).journal.countP (fun entry => succeeds key entry.2) =
      ((({} : System).run o events).writes o key).countP
        (·.text = QueueState.success.name) := by
  rw [writes_eq, List.countP_filterMap]
  refine List.countP_congr fun entry he => ?_
  obtain ⟨task, -, last, hr⟩ := (sound_run o events).rule_of_entry he
  rw [← any_written?_success hr]
  cases written? (o.ledger.layout.status key) entry.2 <;> simp

/-- The job has been moved from STARTED to SUCCESS. -/
def accepted : StatusWrite := .swapped QueueState.started.name QueueState.success.name

/-- The task's own swap has moved the job from STARTED to SUCCESS. -/
def Won (o : Orchestrator) (key : JobKey) (s : System) (n : Nat) : Prop :=
  ∃ x ∈ s.trace n, written? (o.ledger.layout.status key) x = some accepted

/-- What has been done about the successes of a job. -/
structure Effects (o : Orchestrator) (key : JobKey) (s : System) : Prop where
  store : s.store = ({} : InProcess).run s.history
  /-- The writes of the status are those that tasks were told of. -/
  told : s.writes o key = s.journal.filterMap
    fun entry => written? (o.ledger.layout.status key) entry.2
  /-- The handler of a success calls nobody and enters nothing before its own swap has been
  applied. -/
  won : ∀ n rest, s.tasks[n]? = some ⟨.occasion (.outcome ⟨.success, key⟩), rest⟩ →
    deedsOf (s.trace n) ≠ [] → s.Won o key n
  /-- If its swap has been applied, it publishes the job. -/
  published : ∀ n, s.tasks[n]? = some ⟨.occasion (.outcome ⟨.success, key⟩), .done ()⟩ →
    s.Won o key n → .publish key ∈ (s.trace n).filterMap call?
  /-- Then it goes along the pipeline, to the end or to the first call that fails: it verifies if
  the artifacts could be published, it merges and releases if its repository asks for that and all
  calls before have succeeded, and it calls nobody else. -/
  course : ∀ n, s.tasks[n]? = some ⟨.occasion (.outcome ⟨.success, key⟩), .done ()⟩ →
    s.Won o key n → Pursued o key (deedsOf (s.trace n))
  /-- While it is under way, what it has done so far is where the pipeline begins. -/
  underway : ∀ n rest, s.tasks[n]? = some ⟨.occasion (.outcome ⟨.success, key⟩), rest⟩ →
    s.Won o key n → ∃ more, Pursued o key (deedsOf (s.trace n) ++ more)
  /-- It publishes, verifies, merges and releases in this order, and does each once at most. -/
  staged : ∀ n rest, s.tasks[n]? = some ⟨.occasion (.outcome ⟨.success, key⟩), rest⟩ →
    ((s.trace n).filterMap call?).Pairwise fun c d => c.stage < d.stage
  /-- Whoever publishes the job has moved it to SUCCESS before. -/
  own : ∀ before n x after, s.journal = before ++ (n, x) :: after →
    call? x = some (.publish key) →
      ∃ y, (n, y) ∈ before ∧ written? (o.ledger.layout.status key) y = some accepted
  /-- The job is published no more often than its status has become SUCCESS. -/
  countP_le : s.journal.countP (fun entry => publishes key entry.2) ≤
    (s.writes o key).countP (·.text = QueueState.success.name)
  /-- It is published as often once all tasks are done. -/
  countP_eq : (∀ task ∈ s.tasks, task.rest = .done ()) →
    s.journal.countP (fun entry => publishes key entry.2) =
      (s.writes o key).countP (·.text = QueueState.success.name)
  /-- The status becomes SUCCESS once at most for each admission. -/
  countP_le_admitted : (s.writes o key).countP (·.text = QueueState.success.name) ≤
    (s.writes o key).count .admitted
  /-- It does not after an admission that has come to another end. -/
  sole : ∀ before mid after, s.writes o key = before ++ mid ++ after → .queued ∉ mid →
    ∀ state ∈ [QueueState.aborted, .failure, .error, .timeout],
      ∀ w ∈ mid, w.text = state.name → ∀ w' ∈ mid, w'.text ≠ QueueState.success.name

theorem Sound.won_of_applied (hs : Sound o s) {n : Nat} {task : Task} (h : s.tasks[n]? = some task)
    (ha : (s.trace n).filterMap applied? = [o.ledger.swapOf key .started .success]) :
    s.Won o key n := by
  have hmem : o.ledger.swapOf key .started .success ∈ (s.trace n).filterMap applied? :=
    ha ▸ List.mem_cons_self
  obtain ⟨x, hx, happ⟩ := List.mem_filterMap.1 hmem
  obtain ⟨before, after, e⟩ := List.append_of_mem hx
  refine ⟨x, hx, ?_⟩
  rw [written?_of_applied? (hs.rule_of_mem h e) happ]
  exact if_pos rfl

theorem applied_ne_nil_of_won {n : Nat} (h : s.Won o key n) :
    (s.trace n).filterMap applied? ≠ [] := by
  obtain ⟨x, hx, hw⟩ := h
  intro hnil
  rcases written?_of_not_applied? (List.filterMap_eq_nil_iff.1 hnil x hx) hw with e | e <;> cases e

theorem Sound.own_of_publish {before after : List (Nat × Exchange interface)} {n : Nat}
    {x : Exchange interface}
    (h : (({} : System).run o events).journal = before ++ (n, x) :: after)
    (hx : call? x = some (.publish key)) :
    ∃ y, (n, y) ∈ before ∧ written? (o.ledger.layout.status key) y = some accepted := by
  obtain ⟨events', now, answer, duty, rest, rfl, hask, -⟩ := exists_run_of_journal h
  have hs := sound_run o events'
  obtain rfl : duty = .occasion (.outcome ⟨.success, key⟩) := calls_of_rule (hs.rule hask) hx
  have happ : applied? x = none := by
    cases ha : applied? x with
    | none => rfl
    | some change =>
      obtain ⟨_, _, _, rfl⟩ := eq_of_applied? ha
      cases hx
  obtain ⟨-, hc⟩ | ⟨ha, -⟩ := onSuccess_path ((hs.path n _ hask).snoc x.reply)
  · have hcalls := calls_eq_nil hc
    rw [List.filterMap_append, List.append_eq_nil_iff] at hcalls
    cases (List.filterMap_eq_nil_iff.1 hcalls.2 x List.mem_cons_self).symm.trans hx
  · rw [List.filterMap_append, List.filterMap_cons_none happ, List.filterMap_nil,
      List.append_nil] at ha
    obtain ⟨y, hy, hw⟩ := hs.won_of_applied hask ha
    exact ⟨y, mem_trace.1 hy, hw⟩

theorem success_effects (o : Orchestrator) (events : List Event) (key : JobKey) :
    Effects o key (({} : System).run o events) := by
  have hs := sound_run o events
  have hhist := history_run o events key
  have hle : ∀ {s : System}, Sound o s → s.journal.countP (fun entry => publishes key entry.2) ≤
      s.journal.countP fun entry => succeeds key entry.2 := fun hs => by
    rw [hs.countP_journal, hs.countP_journal]
    exact Finset.sum_le_sum fun n _ => (hs.countP_publishes_le key n).1
  constructor
  case store => exact hs.store
  case told => exact writes_eq o events key
  case won =>
    intro n rest h hdeeds
    obtain ⟨-, hd⟩ | ⟨ha, -⟩ := hs.successTrace h
    · exact absurd hd hdeeds
    · exact hs.won_of_applied h ha
  case published =>
    intro n h hwon
    obtain ⟨ha, -⟩ | ⟨-, -, hdone⟩ := hs.successTrace h
    · exact absurd ha (applied_ne_nil_of_won hwon)
    · exact hdone rfl
  case course =>
    exact fun n h hwon => onSuccess_pursued (hs.path n _ h) (applied_ne_nil_of_won hwon)
  case underway =>
    exact fun n rest h hwon => onSuccess_underway (hs.path n _ h) (applied_ne_nil_of_won hwon)
  case staged =>
    intro n rest h
    obtain ⟨-, hd⟩ | ⟨-, hpw, -⟩ := hs.successTrace h
    · exact calls_eq_nil hd ▸ .nil
    · exact hpw
  case own => exact fun before n x after h hx => Sound.own_of_publish h hx
  case countP_le => exact Sound.countP_succeeds_journal events key ▸ hle hs
  case countP_eq =>
    intro hdone
    rw [← Sound.countP_succeeds_journal, hs.countP_journal, hs.countP_journal]
    exact Finset.sum_congr rfl fun n _ => (hs.countP_publishes_le key n).2 hdone
  case countP_le_admitted => exact hhist.countP_text_le (by decide) (by decide)
  case sole =>
    intro before mid after hsplit hm state hstate w hw ht w' hw' ht'
    have hends : w.ends = true := StatusWrite.ends_of_text ht (by
      revert hstate
      cases state <;> decide)
    have hends' : w'.ends = true := StatusWrite.ends_of_text ht' (by decide)
    obtain rfl := hhist.eq_of_ends hm hsplit hw hw' hends hends'
    obtain rfl := QueueState.name_inj (ht.symm.trans ht')
    revert hstate
    decide

/-- A success that is reported twice, by tasks that both find the job at work. -/
def reportedTwice : List Event :=
  .begin (opened "1") :: steps 0 6 ++ .take :: steps 1 2 ++ .take :: steps 2 6 ++
    .begin (.outcome ⟨.started, Ledger.rival "1"⟩) :: steps 3 4 ++
    .begin (.outcome ⟨.success, Ledger.rival "1"⟩) ::
    .begin (.outcome ⟨.success, Ledger.rival "1"⟩) :: steps 4 2 ++ steps 5 2 ++
    steps 4 5 ++ steps 5 1

example : let s := ({} : System).run solo reportedTwice
    s.writes solo (Ledger.rival "1") =
      [.queued, .admitted, .swapped "STARTING" "STARTED", .swapped "STARTED" "SUCCESS"] ∧
      s.journal.countP (fun entry => publishes (Ledger.rival "1") entry.2) = 1 := by
  decide +kernel

end System

end Orchestrator

end BuildQueue
