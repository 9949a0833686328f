import BuildQueue.Proofs.Ledger.Places
import BuildQueue.Proofs.Store.Origin
import BuildQueue.Proofs.Store.Writes

/-!
# Statuses and places agree at every step

However the calls of any number of clients interleave, and whenever time passes: a job at work holds
a slot, a job that waits has a waiting one's status or none, a job that has ended is gone, and no
more jobs are at work than the calls allow (`System.run_agreement`). A job with a place has been
given a status (`Stated`), so it has none only if that has expired.
-/

namespace BuildQueue.Ledger

variable {layout : KeyLayout} {limit : Nat}

/-- The live statuses of a store agree with its queues and its pools, and at most `limit` jobs, no
two of them competing, hold a slot. A job with a place whose status is not live has an expired
one. -/
structure Agreement (layout : KeyLayout) (limit : Nat) (s : InProcess) : Prop where
  busy_active : ∀ job, s.status? (layout.pools.status job) = some QueueState.starting.name ∨
    s.status? (layout.pools.status job) = some QueueState.started.name →
    s.InPool layout.pools.active job
  active_busy : ∀ job, s.InPool layout.pools.active job →
    s.status? (layout.pools.status job) ∈
      [none, some QueueState.starting.name, some QueueState.started.name]
  ready_queued : ∀ job, s.InPool layout.pools.ready job →
    s.status? (layout.pools.status job) ∈ [none, some QueueState.queued.name]
  behind_queued : ∀ q first job, [first, job].Sublist (s.queue q) →
    s.InPool layout.pools.active first →
    s.status? (layout.pools.status job) ∈ [none, some QueueState.queued.name]
  expired : ∀ job, (∃ q, job ∈ s.queue q) ∨ s.InPool layout.pools.active job ∨
    s.InPool layout.pools.ready job → s.status? (layout.pools.status job) = none →
    ∃ text deadline, s.statuses[layout.pools.status job]? = some (text, deadline) ∧
      deadline ≤ s.clock
  ended_gone : ∀ job (state : QueueState), state.isTerminal = true →
    s.status? (layout.pools.status job) = some state.name →
    (∀ q, job ∉ s.queue q) ∧ ¬ s.InPool layout.pools.active job ∧ ¬ s.InPool layout.pools.ready job
  active_le : (s.members layout.pools.active).length ≤ limit
  active_named : ∀ job, s.InPool layout.pools.active job → ∃ key : JobKey, key.text = job
  active_apart : ∀ a b : JobKey, s.InPool layout.pools.active a.text →
    s.InPool layout.pools.active b.text → a.source = b.source → a.queueId = b.queueId → a = b
  busy_le : ∀ jobs : List String, jobs.Nodup →
    (∀ job ∈ jobs, s.status? (layout.pools.status job) = some QueueState.starting.name ∨
      s.status? (layout.pools.status job) = some QueueState.started.name) → jobs.length ≤ limit

/-- Whatever the store holds is about jobs that have been given a status. -/
abbrev Stated (layout : KeyLayout) (s : InProcess) : Prop :=
  s.Confined layout.pools fun job => s.statuses[layout.pools.status job]? ≠ none

namespace Stated

variable {s : InProcess}

/-- A status may expire, but its entry stays. -/
theorem perform (h : Stated layout s) {c : StoreCall} (hc : c.Respects layout.pools layout.home)
    (now : Int) : Stated layout (s.perform now c).2 := by
  have hkept : ∀ job, s.statuses[layout.pools.status job]? ≠ none →
      (s.perform now c).2.statuses[layout.pools.status job]? ≠ none := fun job hj => by
    have hentry := s.statuses_apply (.call c now) (layout.pools.status job)
    refine fun hnone => hj ?_
    split at hentry
    · cases hentry.symm.trans hnone
    · exact hentry.symm.trans hnone
  refine (h.mono hkept).perform hc ?_ now
  cases c with
  | push queue pools job label ttl =>
    obtain ⟨rfl, -⟩ := hc
    by_cases hq : job ∈ s.queue queue
    · exact hkept job (h.queued queue job hq)
    · have hwrite : s.write? (.call (.push queue layout.pools job label ttl) now)
          (layout.pools.status job) = some .queued := s.write?_push.2 ⟨rfl, rfl, hq⟩
      have hentry := s.statuses_apply (.call (.push queue layout.pools job label ttl) now)
        (layout.pools.status job)
      rw [hwrite] at hentry
      exact fun hnone => by cases hentry.symm.trans hnone
  | start pools max ttl => trivial
  | swap pools change ttl => trivial
  | status name => trivial
  | pool pools which => trivial

/-- A status that such a job does not have live has expired. -/
theorem expired (h : Stated layout s) {job : String} (hj : (∃ q, job ∈ s.queue q) ∨
      s.InPool layout.pools.active job ∨ s.InPool layout.pools.ready job)
    (hs : s.status? (layout.pools.status job) = none) : ∃ text deadline,
      s.statuses[layout.pools.status job]? = some (text, deadline) ∧ deadline ≤ s.clock := by
  have hentry : s.statuses[layout.pools.status job]? ≠ none := by
    rcases hj with ⟨q, hq⟩ | ha | hr
    · exact h.queued q job hq
    · exact h.pooled _ job ha
    · exact h.pooled _ job hr
  obtain ⟨⟨text, deadline⟩, he⟩ := Option.ne_none_iff_exists'.1 hentry
  rw [InProcess.status?_eq_bind, he, Option.bind_some] at hs
  refine ⟨text, deadline, he, ?_⟩
  by_contra hlive
  rw [if_neg hlive] at hs
  cases hs

end Stated

namespace Agrees

variable {s : InProcess} {lane : String → Lane}

theorem running_of_busy (h : Agrees layout s lane) {job : String}
    (hs : s.status? (layout.pools.status job) = some QueueState.starting.name ∨
      s.status? (layout.pools.status job) = some QueueState.started.name) :
    (lane (layout.home job)).running = some job := by
  rcases hs with hs | hs
  · obtain ⟨state, hn, ha⟩ := h.place job _ hs
    obtain rfl := QueueState.name_inj hn
    exact ha
  · obtain ⟨state, hn, ha⟩ := h.place job _ hs
    obtain rfl := QueueState.name_inj hn
    exact ha

theorem status_of_running (h : Agrees layout s lane) {job : String}
    (hr : (lane (layout.home job)).running = some job) :
    s.status? (layout.pools.status job) ∈
      [none, some QueueState.starting.name, some QueueState.started.name] := by
  cases hs : s.status? (layout.pools.status job) with
  | none => exact List.mem_cons_self
  | some raw =>
    obtain ⟨state, rfl, ha⟩ := h.place job raw hs
    rcases ha.of_running hr with rfl | rfl <;> simp

theorem status_of_waiting (h : Agrees layout s lane) {job : String}
    (hw : (lane (layout.home job)).waiting = some job) :
    s.status? (layout.pools.status job) ∈ [none, some QueueState.queued.name] := by
  cases hs : s.status? (layout.pools.status job) with
  | none => exact List.mem_cons_self
  | some raw =>
    obtain ⟨state, rfl, ha⟩ := h.place job raw hs
    rw [ha.of_waiting hw]
    simp

theorem agreement (h : Agrees layout s lane) (hf : s.Follows layout.pools layout.home lane)
    (hstated : Stated layout s) (hle : (s.members layout.pools.active).length ≤ limit) :
    Agreement layout limit s where
  busy_active job hs := (hf.active job).2 (h.running_of_busy hs)
  active_busy job ha := h.status_of_running ((hf.active job).1 ha)
  ready_queued job hr := h.status_of_waiting (Lane.ready_eq_some.1 ((hf.ready job).1 hr)).2
  behind_queued q first job hsub _ := by
    rw [hf.queue] at hsub
    have hq := hsub.eq_of_length_le (lane q).length_jobs_le
    have hown := hf.own q job (by simp [← hq])
    exact h.status_of_waiting (hown ▸ (Lane.of_jobs_eq_cons_cons hq.symm).2)
  expired _ hj hs := hstated.expired hj hs
  ended_gone job state ht hs := by
    obtain ⟨state', hn, ha⟩ := h.place job _ hs
    obtain rfl := QueueState.name_inj hn
    have hout := (Lane.Allows.of_terminal ht).1 ha
    refine ⟨fun q hq => ?_, hf.not_inPool hout⟩
    rw [hf.queue] at hq
    rw [hf.own q job hq] at hout
    exact hout hq
  active_le := hle
  active_named job ha := h.named _ job (Lane.mem_jobs.2 (.inl ((hf.active job).1 ha)))
  active_apart a b ha hb hs hq := by
    rw [hf.active, layout.home_text] at ha hb
    rw [layout.queue_congr hs hq, hb] at ha
    exact JobKey.text_inj (Option.some.inj ha).symm
  busy_le jobs hn hs := by
    refine Nat.le_trans (s.length_le_members hn fun job hj => ?_) hle
    exact (hf.active job).2 (h.running_of_busy (hs job hj))

end Agrees

/-- A request gives out no more slots than it may. -/
theorem length_active_perform (s : InProcess) {call : StoreCall}
    (hc : (Request.store call).Lawful layout limit)
    (hle : (s.members layout.pools.active).length ≤ limit) (now : Int) :
    ((s.perform now call).2.members layout.pools.active).length ≤ limit := by
  have hd := layout.pools_distinct
  cases call with
  | push queue pools job label ttl =>
    obtain ⟨rfl, -⟩ := hc
    refine Nat.le_trans (InProcess.length_members_le fun j hj => ?_) hle
    by_cases hm : job ∈ s.queue queue
    · simpa only [InProcess.perform, s.push_of_mem _ _ _ _ hm] using hj
    · exact (s.inPool_active_push _ _ _ _ hm hd j).1 hj
  | start pools max ttl =>
    obtain ⟨rfl, hm⟩ := hc
    exact Nat.le_trans (InProcess.length_active_start hd s max) (by omega)
  | swap pools change ttl =>
    obtain ⟨rfl, -⟩ := hc
    refine Nat.le_trans (InProcess.length_members_le fun j hj => ?_) hle
    simp only [InProcess.perform] at hj
    by_cases hs : s.status? (layout.pools.status change.job) = some change.expected
    · obtain ⟨_, e⟩ := s.swap_of_eq hs ttl now
      rw [e] at hj
      dsimp only at hj
      split at hj
      · exact ((InProcess.inPool_active_retire _ _ _ _ hd j).1 hj).2
      · exact hj
    · rwa [s.swap_of_ne hs] at hj
  | status name => exact hle
  | pool pools which => exact hle

/-- An event whose call starts no more than `limit` jobs and makes no job starting by itself. -/
def Event.Lawful {Client : Type} (limit : Nat) : Event Client → Prop
  | .call _ _ op => op.Lawful limit
  | .step _ _ => True
  | .advance _ => True

namespace System

variable {Client : Type} [DecidableEq Client]

/-- What every step keeps: the store agrees and holds only jobs with a status, and the requests
still to come are lawful. -/
structure Sound (layout : KeyLayout) (limit : Nat) (s : System Client) : Prop where
  agrees : ∃ lane, s.store.Follows layout.pools layout.home lane ∧ Agrees layout s.store lane
  stated : Stated layout s.store
  active_le : (s.store.members layout.pools.active).length ≤ limit
  lawful : ∀ client, (s.running client).Asks (Request.Lawful layout limit)

namespace Sound

variable {s : System Client}

omit [DecidableEq Client] in
theorem start : Sound layout limit ({} : System Client) where
  agrees := ⟨_, InProcess.Follows.empty, Agrees.empty⟩
  stated := .empty
  active_le := by
    show (InProcess.members {} _).length ≤ limit
    rw [InProcess.members_empty]
    exact Nat.zero_le _
  lawful _ := trivial

theorem next (h : s.Sound layout limit) {e : Event Client} (he : e.Lawful limit) :
    (s.next layout e).Sound layout limit := by
  obtain ⟨lane, hf, ha⟩ := h.agrees
  have hrun : ∀ client p, p.Asks (Request.Lawful layout limit) →
      ∀ c, (Function.update s.running client p c).Asks (Request.Lawful layout limit) := by
    intro client p hp
    rw [Function.forall_update_iff s.running fun _ p => p.Asks (Request.Lawful layout limit)]
    exact ⟨hp, fun c _ => h.lawful c⟩
  cases e with
  | call client ttl op =>
    unfold System.next
    dsimp only
    split
    · exact ⟨⟨lane, hf, ha⟩, h.stated, h.active_le,
        hrun client _ (Operation.asks (l := ⟨layout, ttl⟩) he)⟩
    · exact h
  | step client now =>
    cases hc : s.running client with
    | done _ =>
      simp only [System.next, hc]
      exact h
    | ask r rest =>
      have hlaw := h.lawful client
      rw [hc] at hlaw
      rw [next_step layout hc]
      cases r with
      | store call =>
        exact ⟨ha.perform hf hlaw.1 now, h.stated.perform hlaw.1.respects now,
          length_active_perform _ hlaw.1 h.active_le now, hrun client _ (hlaw.2 _)⟩
      | post t => exact ⟨⟨lane, hf, ha⟩, h.stated, h.active_le, hrun client _ (hlaw.2 _)⟩
  | advance ms =>
    exact ⟨⟨lane, hf.advance ms, ha.advance ms⟩, h.stated.advance ms, h.active_le, h.lawful⟩

end Sound

/-- In every state that calls of any number of clients reach, in any interleaving of their steps and
whatever time passes in between, the statuses agree with the places. -/
theorem run_agreement {events : List (Event Client)} (h : ∀ e ∈ events, e.Lawful limit) :
    Agreement layout limit (({} : System Client).run layout events).store := by
  have hs : (({} : System Client).run layout events).Sound layout limit :=
    run_induction .start fun before e hp ih => ih.next (h e (hp.subset (by simp)))
  obtain ⟨lane, hf, ha⟩ := hs.agrees
  exact ha.agreement hf hs.stated hs.active_le

/-- A push that displaces a running job has read its status when the job changes it, and so the job
is not aborted. -/
def overtaken : List (Event Bool) :=
  [.call true 50 (.push (rival "1")), .step true 0, .step true 0,
    .call true 50 (.start 1), .step true 1, .step true 1,
    .call false 50 (.push (rival "2")), .step false 2, .step false 2, .step false 2,
    .call true 50 (.addState (rival "1") .started), .step true 3, .step true 3,
    .step false 4, .advance 7]

theorem run_agreement_overtaken :
    Agreement ⟨"builds"⟩ 1 (({} : System Bool).run ⟨"builds"⟩ overtaken).store :=
  run_agreement (by simp [overtaken, Event.Lawful, Operation.Lawful])

end System

end BuildQueue.Ledger
