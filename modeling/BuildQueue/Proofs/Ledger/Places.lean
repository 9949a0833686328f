import BuildQueue.Proofs.Job.Key
import BuildQueue.Proofs.Ledger.Requests
import BuildQueue.Proofs.Store.Admission

/-!
# Statuses and places

The live status of a job says where the job stands in its lane: one that is at work runs, one that
waits does not, and one that has ended is gone (`Agrees`). A step of the store moves one job in its
lane and writes the status of that job only (`Agrees.update`), and so each request of the ledger
keeps statuses and places in agreement (`Agrees.perform`).
-/

namespace BuildQueue

/-- Where a job of the given live status may stand. -/
def Lane.Allows (l : Lane) (job : String) : QueueState → Prop
  | .queued => l.running ≠ some job
  | .starting | .started => l.running = some job
  | _ => job ∉ l.jobs

namespace Lane.Allows

variable {l l' : Lane} {job : String} {state : QueueState}

theorem mono (h : l.Allows job state) (hr : l'.running = some job ↔ l.running = some job)
    (hj : job ∈ l'.jobs → job ∈ l.jobs) : l'.Allows job state := by
  cases state with
  | queued => exact fun e => h (hr.1 e)
  | starting => exact hr.2 h
  | started => exact hr.2 h
  | _ => exact fun m => h (hj m)

theorem of_terminal (ht : state.isTerminal = true) : l.Allows job state ↔ job ∉ l.jobs := by
  cases state <;> first | exact Iff.rfl | cases ht

/-- A running job is at work. -/
theorem of_running (h : l.Allows job state) (hr : l.running = some job) :
    state = .starting ∨ state = .started := by
  have hm : job ∈ l.jobs := mem_jobs.2 (.inl hr)
  cases state with
  | queued => exact absurd hr h
  | starting => exact .inl rfl
  | started => exact .inr rfl
  | _ => exact absurd hm h

theorem of_waiting (h : l.Allows job state) (hw : l.waiting = some job) : state = .queued := by
  have hm : job ∈ l.jobs := mem_jobs.2 (.inr hw)
  cases state with
  | queued => rfl
  | starting => exact absurd hw (l.apart job h)
  | started => exact absurd hw (l.apart job h)
  | _ => exact absurd hm h

/-- The one move that ends no job and gives out no slot is from STARTING to STARTED. -/
theorem of_canBecome {next : QueueState} (h : l.Allows job state)
    (hc : state.canBecome next = true) (hs : next ≠ .starting) (ht : ¬ next.isTerminal = true) :
    l.Allows job next := by
  have hst : state = .starting ∧ next = .started := by
    revert hc hs ht
    cases state <;> cases next <;> decide
  obtain ⟨rfl, rfl⟩ := hst
  exact h

end Lane.Allows

namespace Ledger

variable {layout : KeyLayout} {limit : Nat}

/-- Each job with a live status stands where the status allows it, and every job is a key. -/
structure Agrees (layout : KeyLayout) (s : InProcess) (lane : String → Lane) : Prop where
  named : ∀ q, ∀ job ∈ (lane q).jobs, ∃ key : JobKey, key.text = job
  place : ∀ job raw, s.status? (layout.pools.status job) = some raw →
    ∃ state : QueueState, raw = state.name ∧ (lane (layout.home job)).Allows job state

namespace Agrees

variable {s t : InProcess} {lane : String → Lane}

theorem empty : Agrees layout {} fun _ => {} where
  named q job hj := by simp [Lane.jobs] at hj
  place job raw h := by simp [InProcess.status?] at h

theorem advance (h : Agrees layout s lane) (ms : Nat) : Agrees layout (s.advance ms) lane where
  named := h.named
  place job raw hs := h.place job raw (InProcess.status?_advance s hs)

/-- A job that a lane may have is the text of a key. -/
theorem exists_key (h : Agrees layout s lane) {q : String} {o : Option String}
    (ho : ∀ job, o = some job → job ∈ (lane q).jobs) :
    ∃ key : Option JobKey, o = key.map JobKey.text :=
  JobKey.exists_map_text fun job hj => h.named q job (ho job hj)

/-- One job moves in its lane and gets a status that allows it, and the others stay as they are. -/
theorem update (h : Agrees layout s lane) {job : String} {l : Lane}
    (hkey : job ∈ l.jobs → ∃ key : JobKey, key.text = job)
    (hl : ∀ j, j ≠ job → (l.running = some j ↔ (lane (layout.home job)).running = some j) ∧
      (j ∈ l.jobs → j ∈ (lane (layout.home job)).jobs))
    (hs : ∀ j, j ≠ job → t.status? (layout.pools.status j) = s.status? (layout.pools.status j))
    (hj : ∀ raw, t.status? (layout.pools.status job) = some raw →
      ∃ state : QueueState, raw = state.name ∧ l.Allows job state) :
    Agrees layout t (Function.update lane (layout.home job) l) where
  named q j hm := by
    by_cases hq : q = layout.home job
    · subst hq
      rw [Function.update_self] at hm
      by_cases e : j = job
      · subst e
        exact hkey hm
      · exact h.named _ j ((hl j e).2 hm)
    · rw [Function.update_of_ne hq] at hm
      exact h.named q j hm
  place j raw hr := by
    by_cases e : j = job
    · subst e
      rw [Function.update_self]
      exact hj raw hr
    · rw [hs j e] at hr
      obtain ⟨state, rfl, ha⟩ := h.place j raw hr
      refine ⟨state, rfl, ?_⟩
      by_cases hq : layout.home j = layout.home job
      · rw [hq] at ha ⊢
        rw [Function.update_self]
        exact ha.mono (hl j e).1 (hl j e).2
      · rwa [Function.update_of_ne hq]

theorem push (h : Agrees layout s lane) (hf : s.Follows layout.pools layout.home lane)
    {key : JobKey} (hk : key.text ∉ (lane (layout.home key.text)).jobs) (label : String)
    (ttl : Nat) (now : Int) :
    Agrees layout (s.push (layout.home key.text) layout.pools key.text label ttl now).2
      (Function.update lane (layout.home key.text)
        ((lane (layout.home key.text)).push key.text fun e => hk (Lane.mem_jobs.2 (.inl e)))) := by
  have hq : key.text ∉ s.queue (layout.home key.text) := by rwa [hf.queue]
  refine h.update (fun _ => ⟨key, rfl⟩) (fun j hj => ⟨Iff.rfl, ?_⟩) (fun j hj => ?_)
    fun raw hr => ?_
  · rw [Lane.mem_jobs_push, Lane.mem_jobs]
    rintro (hr | rfl)
    · exact .inl hr
    · exact absurd rfl hj
  · rw [s.status?_push _ _ _ _ hq, if_neg fun e => hj ((InProcess.status_inj _).1 e)]
  · rw [s.status?_push _ _ _ _ hq, if_pos rfl] at hr
    have hraw : raw = QueueState.queued.name := by
      split at hr
      · cases hr
      · exact (Option.some.inj hr).symm
    exact ⟨.queued, hraw, fun e => hk (Lane.mem_jobs.2 (.inl e))⟩

/-- A job is dropped that has no live status any more, or has just got one that ends it. -/
theorem retire (h : Agrees layout s lane) {job : String} (now : Int)
    (hs : ∀ j, j ≠ job → t.status? (layout.pools.status j) = s.status? (layout.pools.status j))
    (hj : ∀ raw, t.status? (layout.pools.status job) = some raw →
      ∃ state : QueueState, raw = state.name ∧ state.isTerminal = true) :
    Agrees layout (t.retire (layout.home job) layout.pools job now).2
      (Function.update lane (layout.home job) ((lane (layout.home job)).drop job)) := by
  have hout : job ∉ ((lane (layout.home job)).drop job).jobs := fun m =>
    (Lane.mem_jobs_drop.1 m).1 rfl
  refine h.update (fun m => absurd m hout) (fun j hne => ⟨?_, fun m => (Lane.mem_jobs_drop.1 m).2⟩)
    (fun j hne => ?_) fun raw hr => ?_
  · rw [Lane.running_drop]
    exact and_iff_right hne
  · rw [InProcess.status?_retire]
    exact hs j hne
  · rw [InProcess.status?_retire] at hr
    obtain ⟨state, rfl, ht⟩ := hj raw hr
    exact ⟨state, rfl, (Lane.Allows.of_terminal ht).2 hout⟩

/-- A job ends: its status says so, and it is dropped. -/
theorem finish (h : Agrees layout s lane) (job : String) {state : QueueState}
    (ht : state.isTerminal = true) (ttl : Nat) (now : Int) :
    Agrees layout ((s.setStatus (layout.pools.status job) state.name ttl).retire (layout.home job)
        layout.pools job now).2
      (Function.update lane (layout.home job) ((lane (layout.home job)).drop job)) := by
  refine h.retire now (fun j hj => ?_) fun raw hr =>
    ⟨state, InProcess.eq_of_status?_setStatus _ hr, ht⟩
  exact s.status?_setStatus_of_ne _ hj _ _

/-- A job that holds a slot is at work. -/
theorem proceed (h : Agrees layout s lane) {job : String} {current next : QueueState}
    (hcur : s.status? (layout.pools.status job) = some current.name)
    (hc : current.canBecome next = true) (hn : next ≠ .starting) (ht : ¬ next.isTerminal = true)
    (ttl : Nat) : Agrees layout (s.setStatus (layout.pools.status job) next.name ttl) lane where
  named := h.named
  place j raw hr := by
    by_cases e : j = job
    · subst e
      obtain ⟨state, hname, ha⟩ := h.place _ _ hcur
      obtain rfl := QueueState.name_inj hname
      exact ⟨next, InProcess.eq_of_status?_setStatus _ hr, ha.of_canBecome hc hn ht⟩
    · rw [s.status?_setStatus_of_ne _ e] at hr
      exact h.place j raw hr

/-- A ready job with a status that is not that of a waiting one has none at all. -/
theorem stale (h : Agrees layout s lane) {job : String}
    (hj : (lane (layout.home job)).ready = some job)
    (hs : s.status? (layout.pools.status job) ≠ some QueueState.queued.name) :
    s.status? (layout.pools.status job) = none := by
  cases hst : s.status? (layout.pools.status job) with
  | none => rfl
  | some raw =>
    obtain ⟨state, rfl, ha⟩ := h.place job raw hst
    rw [ha.of_waiting (Lane.ready_eq_some.1 hj).2] at hst
    exact absurd hst hs

theorem enter (h : Agrees layout s lane) {job : String}
    (hj : (lane (layout.home job)).ready = some job) (ttl : Nat) (now : Int) :
    Agrees layout (s.admitted layout.pools job ttl now)
      (Function.update lane (layout.home job) (lane (layout.home job)).enter) := by
  obtain ⟨hr, hw⟩ := Lane.ready_eq_some.1 hj
  have hjobs : ∀ j, j ∈ (lane (layout.home job)).enter.jobs ↔
      j ∈ (lane (layout.home job)).jobs := by
    intro j
    simp [Lane.mem_jobs, Lane.enter, hr]
  refine h.update (fun m => h.named _ job ((hjobs job).1 m))
    (fun j hne => ⟨?_, (hjobs j).1⟩) (fun j hne => ?_) fun raw hraw => ?_
  · simp [Lane.enter, hr, hw, Ne.symm hne]
  · simp [InProcess.admitted, InProcess.status_inj, hne]
  · exact ⟨.starting, InProcess.eq_of_status?_setStatus _ hraw, hw⟩

/-- What a walk over ready jobs does to statuses and places leaves them in agreement. -/
theorem walk (layout : KeyLayout) (ttl : Nat) (now : Int) :
    InProcess.WalkInvariant layout.pools layout.home ttl now (Agrees layout) where
  stale s lane job _ h hj hs :=
    h.retire now (fun _ _ => rfl) fun raw hr => by rw [h.stale hj hs] at hr; cases hr
  enter s lane job _ h hj _ := h.enter hj ttl now

theorem swap (h : Agrees layout s lane) (hf : s.Follows layout.pools layout.home lane)
    {l : Ledger} {key : JobKey} {current next : QueueState} (hl : l.layout = layout)
    (hc : current.canBecome next = true) (hn : next ≠ .starting) (ttl : Nat) (now : Int) :
    ∃ lane', (s.swap layout.pools (l.swapOf key current next) ttl now).2.Follows layout.pools
        layout.home lane' ∧
      Agrees layout (s.swap layout.pools (l.swapOf key current next) ttl now).2 lane' := by
  subst hl
  by_cases hcur : s.status? (l.layout.pools.status key.text) = some current.name
  · obtain ⟨_, hswap⟩ :=
      @InProcess.swap_of_eq s l.layout.pools (l.swapOf key current next) hcur ttl now
    rw [hswap, swapOf]
    dsimp only
    by_cases ht : next.isTerminal = true
    · rw [if_pos ht, ← l.layout.home_text key]
      exact ⟨_, (hf.setStatus _ _ _).retire l.layout.pools_distinct _ _, h.finish _ ht ttl now⟩
    · rw [if_neg ht]
      exact ⟨lane, hf.setStatus _ _ _, h.proceed hcur hc hn ht ttl⟩
  · rw [@InProcess.swap_of_ne s l.layout.pools (l.swapOf key current next) hcur]
    exact ⟨lane, hf, h⟩

/-- A request of the ledger keeps statuses and places in agreement. -/
theorem perform (h : Agrees layout s lane) (hf : s.Follows layout.pools layout.home lane)
    {call : StoreCall} (hc : (Request.store call).Lawful layout limit) (now : Int) :
    ∃ lane', (s.perform now call).2.Follows layout.pools layout.home lane' ∧
      Agrees layout (s.perform now call).2 lane' := by
  cases call with
  | push queue pools job label ttl =>
    obtain ⟨rfl, key, rfl, rfl⟩ := hc
    rw [← layout.home_text key]
    by_cases hj : key.text ∈ s.queue (layout.home key.text)
    · refine ⟨lane, ?_⟩
      simp only [InProcess.perform, s.push_of_mem _ _ _ _ hj]
      exact ⟨hf, h⟩
    · rw [hf.queue] at hj
      exact ⟨_, hf.push layout.pools_distinct hj label ttl now, h.push hf hj label ttl now⟩
  | start pools max ttl =>
    obtain ⟨rfl, -⟩ := hc
    exact hf.start layout.pools_distinct (walk layout ttl now) h max
  | swap pools change ttl =>
    obtain ⟨rfl, l, key, current, next, hl, rfl, hcan, hn⟩ := hc
    exact h.swap hf hl hcan hn ttl now
  | status name => exact ⟨lane, hf, h⟩
  | pool pools which => exact ⟨lane, hf, h⟩

end Agrees
end Ledger
end BuildQueue
