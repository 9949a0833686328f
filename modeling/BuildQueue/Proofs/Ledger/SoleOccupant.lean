import BuildQueue.Proofs.Ledger.Calls
import BuildQueue.Proofs.Ledger.Places
import BuildQueue.Proofs.Store.Structure

/-!
# The sole occupant of a queue

Between calls that run to their end, a running job keeps another one waiting only if its status has
expired (`AtRest`). A pushed job therefore becomes the sole occupant of its queue
(`push_sole_occupant`), unless a running job of that queue has outlived its status.
-/

namespace BuildQueue.Ledger

variable {layout : KeyLayout} {s : InProcess} {lane : String → Lane}

/-- What calls that run to their end may make of an empty store, whatever time passes in between. -/
inductive Settled (layout : KeyLayout) : Surroundings → Prop where
  | start : Settled layout {}
  | call {w : Surroundings} (h : Settled layout w) (ttl : Nat) (op : Operation)
      (hop : ∀ key, op ≠ .addState key .starting) (times : Nat → Int) :
      Settled layout (complete times (op.program ⟨layout, ttl⟩) w).2
  | advance {w : Surroundings} (h : Settled layout w) (ms : Nat) :
      Settled layout { w with store := w.store.advance ms }

/-- How the store stands between two calls. -/
structure AtRest (layout : KeyLayout) (s : InProcess) (lane : String → Lane) : Prop where
  follows : s.Follows layout.pools layout.home lane
  agrees : Agrees layout s lane
  /-- A running job that keeps another one waiting has outlived its status. -/
  expired : ∀ q first, (lane q).running = some first → (lane q).waiting ≠ none →
    s.status? (layout.pools.status first) = none

/-! ## Superseding -/

section Supersede

variable {l : Ledger} {w : Surroundings} {state : QueueState}

/-- A job is superseded if its status allows it, and else nothing happens. -/
theorem supersede_cases (h : Agrees l.layout w.store lane) (key : JobKey)
    (ht : state.isTerminal = true) (times : Nat → Int) :
    ((complete times (l.supersede (some key) state) w).2 = w ∧
        ∀ current : QueueState, w.store.status? (l.layout.status key) = some current.name →
          ¬ current.canBecome state = true) ∨
      ∃ now, (complete times (l.supersede (some key) state) w).2.store =
        ((w.store.setStatus (l.layout.pools.status key.text) state.name l.ttl).retire
          (l.layout.home key.text) l.layout.pools key.text now).2 := by
  rw [complete_supersede]
  cases hs : w.store.status? (l.layout.status key) with
  | none =>
    rw [complete_apply_none state true times hs]
    exact .inl ⟨rfl, by simp⟩
  | some raw =>
    obtain ⟨current, rfl, -⟩ := h.place _ _ hs
    by_cases hc : current.canBecome state = true
    · obtain ⟨now, ha⟩ := complete_apply true times hs hc
      exact .inr ⟨now, ha.trans (if_pos ht)⟩
    · rw [complete_apply_illegal true times hs hc]
      refine .inl ⟨rfl, fun other ho => ?_⟩
      rwa [← QueueState.name_inj (Option.some.inj ho)]

/-- Superseding a job that is in no queue any more leaves the lanes as they are. -/
theorem supersede_absent (hf : w.store.Follows l.layout.pools l.layout.home lane)
    (h : Agrees l.layout w.store lane) (job : Option JobKey)
    (hout : ∀ key ∈ job, key.text ∉ (lane (l.layout.home key.text)).jobs)
    (ht : state.isTerminal = true) (times : Nat → Int) :
    (complete times (l.supersede job state) w).2.store.Follows l.layout.pools l.layout.home lane ∧
      Agrees l.layout (complete times (l.supersede job state) w).2.store lane ∧
      ∀ j, (∀ key ∈ job, j ≠ key.text) →
        (complete times (l.supersede job state) w).2.store.status? (l.layout.pools.status j) =
          w.store.status? (l.layout.pools.status j) := by
  cases job with
  | none => exact ⟨hf, h, fun _ _ => rfl⟩
  | some key =>
    rcases supersede_cases h key ht times with ⟨hw, -⟩ | ⟨now, hs⟩
    · rw [hw]
      exact ⟨hf, h, fun _ _ => rfl⟩
    · have hlane : Function.update lane (l.layout.home key.text)
          ((lane (l.layout.home key.text)).drop key.text) = lane := by
        rw [Lane.drop_of_not_mem (hout key rfl), Function.update_eq_self]
      have hf' := (hf.setStatus (l.layout.pools.status key.text) state.name l.ttl).retire
        l.layout.pools_distinct key.text now
      have h' := h.finish key.text ht l.ttl now
      rw [hlane] at hf' h'
      rw [hs]
      refine ⟨hf', h', fun j hj => ?_⟩
      rw [InProcess.status?_retire, InProcess.status?_setStatus_of_ne _ _ (hj key rfl)]

/-- A running job is superseded unless its status has expired. -/
theorem supersede_running (hf : w.store.Follows l.layout.pools l.layout.home lane)
    (h : Agrees l.layout w.store lane) {key : JobKey}
    (hr : (lane (l.layout.home key.text)).running = some key.text) (times : Nat → Int) :
    (w.store.status? (l.layout.pools.status key.text) = none ∧
        (complete times (l.supersede (some key) .aborted) w).2 = w) ∨
      ((complete times (l.supersede (some key) .aborted) w).2.store.Follows l.layout.pools
          l.layout.home (Function.update lane (l.layout.home key.text)
            ((lane (l.layout.home key.text)).drop key.text)) ∧
        Agrees l.layout (complete times (l.supersede (some key) .aborted) w).2.store
          (Function.update lane (l.layout.home key.text)
            ((lane (l.layout.home key.text)).drop key.text)) ∧
        ∀ j, j ≠ key.text →
          (complete times (l.supersede (some key) .aborted) w).2.store.status?
            (l.layout.pools.status j) = w.store.status? (l.layout.pools.status j)) := by
  have ht : QueueState.aborted.isTerminal = true := rfl
  rcases supersede_cases h key ht times with ⟨hw, hno⟩ | ⟨now, hs⟩
  · refine .inl ⟨?_, hw⟩
    cases hst : w.store.status? (l.layout.pools.status key.text) with
    | none => rfl
    | some raw =>
      obtain ⟨current, rfl, ha⟩ := h.place _ _ hst
      have hcan : current.canBecome .aborted = true := by
        rcases ha.of_running hr with rfl | rfl <;> rfl
      exact absurd hcan (hno current hst)
  · rw [hs]
    refine .inr ⟨(hf.setStatus _ _ _).retire l.layout.pools_distinct _ _,
      h.finish _ ht _ _, fun j hj => ?_⟩
    rw [InProcess.status?_retire, InProcess.status?_setStatus_of_ne _ _ hj]

end Supersede

/-! ## A push -/

/-- The store `t` is `s` after a push: the new job waits in its lane, behind the job that runs there
if it still does, and nothing has happened to the other lanes. -/
structure Pushed (layout : KeyLayout) (s : InProcess) (lane : String → Lane) (key : JobKey)
    (ttl : Nat) (t : InProcess) (l : Lane) : Prop where
  follows : t.Follows layout.pools layout.home (Function.update lane (layout.home key.text) l)
  agrees : Agrees layout t (Function.update lane (layout.home key.text) l)
  waiting : l.waiting = some key.text
  running : ∀ first, l.running = some first → (lane (layout.home key.text)).running = some first ∧
    t.status? (layout.pools.status first) = s.status? (layout.pools.status first)
  others : ∀ j, layout.home j ≠ layout.home key.text →
    t.status? (layout.pools.status j) = s.status? (layout.pools.status j)
  status : t.status? (layout.pools.status key.text) =
    if ttl = 0 then none else some QueueState.queued.name

namespace Pushed

variable {key : JobKey} {ttl : Nat} {w : Surroundings} {l : Lane}

theorem push (hf : s.Follows layout.pools layout.home lane) (h : Agrees layout s lane)
    (hj : key.text ∉ (lane (layout.home key.text)).jobs) (label : String) (ttl : Nat)
    (now : Int) : Pushed layout s lane key ttl
      (s.push (layout.home key.text) layout.pools key.text label ttl now).2
      ((lane (layout.home key.text)).push key.text fun e => hj (Lane.mem_jobs.2 (.inl e))) := by
  have hq : key.text ∉ s.queue (layout.home key.text) := by rwa [hf.queue]
  have hs : ∀ j, j ≠ key.text →
      (s.push (layout.home key.text) layout.pools key.text label ttl now).2.status?
        (layout.pools.status j) = s.status? (layout.pools.status j) := by
    intro j hne
    rw [s.status?_push _ _ _ _ hq, if_neg fun e => hne ((InProcess.status_inj _).1 e)]
  refine ⟨hf.push layout.pools_distinct hj label ttl now, h.push hf hj label ttl now, rfl,
    fun first hr => ⟨hr, hs first ?_⟩, fun j hh => hs j fun e => hh (e ▸ rfl), ?_⟩
  · rintro rfl
    exact hj (Lane.mem_jobs.2 (.inl hr))
  · rw [s.status?_push _ _ _ _ hq, if_pos rfl]

/-- With no running job in front of it, the new job has the queue for itself. -/
theorem queue_of_free {t : InProcess} (h : Pushed layout s lane key ttl t l)
    (hl : l.running = none) : t.queue (layout.queue key) = [key.text] := by
  rw [h.follows.queue, ← layout.home_text, Function.update_self, Lane.jobs, hl, h.waiting]
  rfl

/-- The job that waited there before is cancelled. -/
theorem cancel (h : Pushed layout s lane key ttl w.store l) {old : Option JobKey}
    (hhome : ∀ c ∈ old, layout.home c.text = layout.home key.text)
    (hout : ∀ c ∈ old, c.text ∉ l.jobs) (times : Nat → Int) :
    Pushed layout s lane key ttl
      (complete times (supersede ⟨layout, ttl⟩ old .cancelled) w).2.store l := by
  have ht : QueueState.cancelled.isTerminal = true := rfl
  have hgone : ∀ c ∈ old, c.text ∉
      (Function.update lane (layout.home key.text) l (layout.home c.text)).jobs := by
    intro c hc
    rw [hhome c hc, Function.update_self]
    exact hout c hc
  obtain ⟨hf, ha, hs⟩ :=
    supersede_absent (l := ⟨layout, ttl⟩) (w := w) h.follows h.agrees old hgone ht times
  refine ⟨hf, ha, h.waiting, fun first hr => ?_, fun j hj => ?_, ?_⟩
  · rw [hs first fun c hc e =>
      hout c hc (Lane.mem_jobs.2 (.inl (hr.trans (congrArg some e))))]
    exact h.running first hr
  · rw [hs j fun c hc e => hj ((congrArg layout.home e).trans (hhome c hc))]
    exact h.others j hj
  · rw [hs key.text fun c hc e =>
      hout c hc (Lane.mem_jobs.2 (.inr (h.waiting.trans (congrArg some e))))]
    exact h.status

/-- The running job is aborted unless its status has expired. -/
theorem abort (h : Pushed layout s lane key ttl w.store l) {old : Option JobKey}
    (hold : l.running = old.map JobKey.text) (times : Nat → Int) :
    ∃ l', Pushed layout s lane key ttl
        (complete times (supersede ⟨layout, ttl⟩ old .aborted) w).2.store l' ∧
      ∀ first, l'.running = some first → s.status? (layout.pools.status first) = none := by
  cases old with
  | none =>
    refine ⟨l, h, fun first hr => ?_⟩
    rw [hold] at hr
    cases hr
  | some r =>
    have hhome : layout.home r.text = layout.home key.text :=
      h.follows.own _ _ (by rw [Function.update_self]; exact Lane.mem_jobs.2 (.inl hold))
    have hne : key.text ≠ r.text := fun e =>
      l.apart r.text hold (h.waiting.trans (congrArg some e))
    have hr : (Function.update lane (layout.home key.text) l (layout.home r.text)).running =
        some r.text := by
      rw [hhome, Function.update_self]
      exact hold
    rcases supersede_running (l := ⟨layout, ttl⟩) (w := w) h.follows h.agrees hr times with
      ⟨hnone, hw⟩ | ⟨hf, ha, hs⟩
    · rw [hw]
      refine ⟨l, h, fun first hfirst => ?_⟩
      obtain rfl : first = r.text := Option.some.inj (hfirst.symm.trans hold)
      exact (h.running _ hfirst).2.symm.trans hnone
    · dsimp only at hf ha hs
      rw [hhome, Function.update_self, Function.update_idem] at hf ha
      have hgone : ∀ first, (l.drop r.text).running ≠ some first := by
        intro first hfirst
        obtain ⟨hne', hrun⟩ := Lane.running_drop.1 hfirst
        exact hne' (Option.some.inj (hrun.symm.trans hold))
      refine ⟨l.drop r.text, ⟨hf, ha, Lane.waiting_drop.2 ⟨hne, h.waiting⟩,
        fun first hfirst => absurd hfirst (hgone first), fun j hj => ?_, ?_⟩,
        fun first hfirst => absurd hfirst (hgone first)⟩
      · rw [hs j fun e => hj ((congrArg layout.home e).trans hhome)]
        exact h.others j hj
      · rw [hs key.text hne]
        exact h.status

/-- A push that is no duplicate. The new job waits behind a running one only if that has outlived
its status. -/
theorem complete (hf : w.store.Follows layout.pools layout.home lane)
    (h : Agrees layout w.store lane) (hj : key.text ∉ (lane (layout.home key.text)).jobs)
    (ttl : Nat) (times : Nat → Int) : ∃ size old run w' l,
      Ledger.complete times (Ledger.push ⟨layout, ttl⟩ key) w = (.ok ⟨size, old, run, false⟩, w') ∧
        Pushed layout w.store lane key ttl w'.store l ∧
        ∀ first, l.running = some first →
          w.store.status? (layout.pools.status first) = none := by
  obtain ⟨run, hr⟩ := h.exists_key (q := layout.home key.text)
    (o := (lane (layout.home key.text)).running) fun job hm => Lane.mem_jobs.2 (.inl hm)
  obtain ⟨old, hw⟩ := h.exists_key (q := layout.home key.text)
    (o := (lane (layout.home key.text)).waiting) fun job hm => Lane.mem_jobs.2 (.inr hm)
  have hlast : ∀ o : Option String, o.toList.getLast? = o := by rintro (_ | _) <;> rfl
  have hq : key.text ∉ w.store.queue (layout.queue key) := by
    rwa [hf.queue, ← layout.home_text]
  have hold : ∀ c ∈ old, (lane (layout.home key.text)).waiting = some c.text := by
    intro c hc
    rw [hw, Option.mem_def.1 hc]
    rfl
  have hhome : ∀ c ∈ old, layout.home c.text = layout.home key.text := fun c hc =>
    hf.own _ _ (Lane.mem_jobs.2 (.inr (hold c hc)))
  have hout : ∀ c ∈ old, c.text ∉ ((lane (layout.home key.text)).push key.text
      fun e => hj (Lane.mem_jobs.2 (.inl e))).jobs := by
    intro c hc hm
    rcases Lane.mem_jobs_push.1 hm with hrun | e
    · exact Lane.apart _ _ hrun (hold c hc)
    · exact hj (Lane.mem_jobs.2 (.inr ((hold c hc).trans (congrArg some e))))
  obtain ⟨size, posted, first, second, hpush⟩ := complete_push (l := ⟨layout, ttl⟩) hq
    (by rw [hf.waitingIn, hlast, ← layout.home_text, hw])
    (by rw [hf.runningIn, hlast, ← layout.home_text, hr]) times
  rw [← layout.home_text key] at hpush
  have hstart := Pushed.push hf h hj key.canonicalId ttl (times 0)
  obtain ⟨l, hdone, hexp⟩ :=
    (hstart.cancel (w := ⟨_, posted⟩) hhome hout first).abort hr second
  exact ⟨size, old, run, _, l, hpush, hdone, hexp⟩

end Pushed

/-! ## Between two calls -/

namespace AtRest

theorem empty : AtRest layout {} fun _ => {} :=
  ⟨InProcess.Follows.empty, Agrees.empty, fun _ _ hr _ => by cases hr⟩

theorem advance (h : AtRest layout s lane) (ms : Nat) : AtRest layout (s.advance ms) lane where
  follows := h.follows.advance ms
  agrees := h.agrees.advance ms
  expired q first hr hw := by
    have hs := h.expired q first hr hw
    cases ha : (s.advance ms).status? (layout.pools.status first) with
    | none => rfl
    | some raw =>
      rw [InProcess.status?_advance s ha] at hs
      cases hs

/-- One lane is changed, and no status but that of one of its jobs is written. -/
theorem update {t : InProcess} {job : String} {l : Lane} (h : AtRest layout s lane)
    (hf : t.Follows layout.pools layout.home (Function.update lane (layout.home job) l))
    (ha : Agrees layout t (Function.update lane (layout.home job) l))
    (hs : ∀ j, layout.home j ≠ layout.home job →
      t.status? (layout.pools.status j) = s.status? (layout.pools.status j))
    (hl : ∀ first, l.running = some first → l.waiting ≠ none →
      t.status? (layout.pools.status first) = none) :
    AtRest layout t (Function.update lane (layout.home job) l) where
  follows := hf
  agrees := ha
  expired q first hr hw := by
    by_cases hq : q = layout.home job
    · subst hq
      rw [Function.update_self] at hr hw
      exact hl first hr hw
    · rw [Function.update_of_ne hq] at hr hw
      have hown := h.follows.own q first (Lane.mem_jobs.2 (.inl hr))
      rw [hs first (hown ▸ hq)]
      exact h.expired q first hr hw

/-- A job in a queue is alone there, if it is so behind a running job with an expired status. -/
theorem jobs_of_mem (h : AtRest layout s lane) {q job : String} (hj : job ∈ (lane q).jobs)
    (halone : ∀ first, (lane q).running = some first →
      s.status? (layout.pools.status first) = none → (lane q).jobs = [job]) :
    (lane q).jobs = [job] := by
  have hcase := Lane.mem_jobs.1 hj
  cases hr : (lane q).running with
  | none =>
    rw [hr] at hcase
    have hw := hcase.resolve_left (by simp)
    rw [Lane.jobs, hr, hw]
    rfl
  | some first =>
    by_cases hw : (lane q).waiting = none
    · rw [hw, hr] at hcase
      rw [Lane.jobs, hr, hw, Option.some.inj (hcase.resolve_right (by simp))]
      rfl
    · exact halone first hr (h.expired q first hr hw)

/-- A walk over ready jobs leaves no job waiting behind one that it admits. -/
theorem walk (layout : KeyLayout) (ttl : Nat) (now : Int) :
    InProcess.WalkInvariant layout.pools layout.home ttl now (AtRest layout) where
  stale s lane job hf h hj hs := by
    have hr := (Lane.ready_eq_some.1 hj).1
    refine h.update (hf.retire layout.pools_distinct job now)
      ((Agrees.walk layout ttl now).stale s lane job hf h.agrees hj hs)
      (fun j _ => InProcess.status?_retire _ _ _ _ _) fun first hl _ => ?_
    rw [Lane.running_drop, hr] at hl
    cases hl.2
  enter s lane job hf h hj hs := by
    refine h.update ((hf.enter layout.pools_distinct hj now).setStatus _ _ _)
      (h.agrees.enter hj ttl now) (fun j hne => ?_) fun first _ hw => absurd rfl hw
    have hj' : j ≠ job := fun e => hne (e ▸ rfl)
    simp [InProcess.admitted, InProcess.status_inj, hj']

theorem start {w : Surroundings} (h : AtRest layout w.store lane) (max ttl : Nat)
    (times : Nat → Int) : ∃ lane', AtRest layout
      (complete times (Ledger.start ⟨layout, ttl⟩ max) w).2.store lane' := by
  obtain ⟨lane', -, h'⟩ :=
    h.follows.start layout.pools_distinct (walk layout ttl (times 0)) h max
  rw [complete_start]
  exact ⟨lane', h'⟩

theorem addState {w : Surroundings} (h : AtRest layout w.store lane) (key : JobKey)
    {state : QueueState} (hs : state ≠ .starting) (ttl : Nat) (times : Nat → Int) :
    ∃ lane', AtRest layout
      (complete times (Ledger.addState ⟨layout, ttl⟩ key state) w).2.store lane' := by
  rw [Ledger.addState]
  cases hst : w.store.status? (layout.pools.status key.text) with
  | none =>
    rw [complete_apply_none (l := ⟨layout, ttl⟩) state false times hst]
    exact ⟨lane, h⟩
  | some raw =>
    obtain ⟨current, rfl, -⟩ := h.agrees.place _ _ hst
    by_cases hc : current.canBecome state = true
    · obtain ⟨now, ha⟩ := complete_apply (l := ⟨layout, ttl⟩) false times hst hc
      have hother : ∀ j, j ≠ key.text →
          (w.store.setStatus (layout.pools.status key.text) state.name ttl).status?
            (layout.pools.status j) = w.store.status? (layout.pools.status j) :=
        fun j hj => w.store.status?_setStatus_of_ne _ hj _ _
      rw [ha]
      split
      · next ht =>
        refine ⟨_, h.update ((h.follows.setStatus _ _ _).retire layout.pools_distinct _ _)
          (h.agrees.finish _ ht ttl now) (fun j hj => ?_) fun first hr hw => ?_⟩
        · rw [InProcess.status?_retire]
          exact hother j fun e => hj (e ▸ rfl)
        · obtain ⟨hne, hr⟩ := Lane.running_drop.1 hr
          rw [InProcess.status?_retire, hother first hne]
          exact h.expired _ first hr (Lane.waiting_ne_none_of_drop hw)
      · next ht =>
        refine ⟨lane, h.follows.setStatus _ _ _, h.agrees.proceed hst hc hs ht ttl,
          fun q first hr hw => ?_⟩
        have hfirst := h.expired q first hr hw
        rw [hother first fun e => by rw [e, hst] at hfirst; cases hfirst]
        exact hfirst
    · rw [complete_apply_illegal (l := ⟨layout, ttl⟩) false times hst hc]
      exact ⟨lane, h⟩

theorem push {w : Surroundings} (h : AtRest layout w.store lane) (key : JobKey) (ttl : Nat)
    (times : Nat → Int) : ∃ outcome lane',
      (complete times (Ledger.push ⟨layout, ttl⟩ key) w).1 = .ok outcome ∧
        AtRest layout (complete times (Ledger.push ⟨layout, ttl⟩ key) w).2.store lane' := by
  by_cases hj : key.text ∈ (lane (layout.home key.text)).jobs
  · have hq : key.text ∈ w.store.queue (layout.queue key) := by
      rwa [h.follows.queue, ← layout.home_text]
    rw [complete_push_of_mem (l := ⟨layout, ttl⟩) hq times]
    exact ⟨_, lane, rfl, h⟩
  · obtain ⟨_, _, _, w', l, hp, hd, hexp⟩ := Pushed.complete h.follows h.agrees hj ttl times
    rw [hp]
    exact ⟨_, _, rfl, h.update hd.follows hd.agrees hd.others fun first hr _ =>
      (hd.running first hr).2.trans (hexp first hr)⟩

end AtRest

theorem Settled.atRest {w : Surroundings} (h : Settled layout w) :
    ∃ lane, AtRest layout w.store lane := by
  induction h with
  | start => exact ⟨_, AtRest.empty⟩
  | call _ ttl op hop times ih =>
    obtain ⟨lane, h⟩ := ih
    cases op with
    | push key =>
      obtain ⟨_, lane', -, h'⟩ := h.push key ttl times
      rw [Operation.program, complete_discard]
      exact ⟨lane', h'⟩
    | start max =>
      rw [Operation.program, complete_discard]
      exact h.start max ttl times
    | addState key state =>
      rw [Operation.program, complete_discard]
      exact h.addState key (fun e => hop key (e ▸ rfl)) ttl times
  | advance _ ms ih =>
    obtain ⟨lane, h⟩ := ih
    exact ⟨lane, h.advance ms⟩

theorem Settled.push_ok {w : Surroundings} (h : Settled layout w) (key : JobKey) (ttl : Nat)
    (times : Nat → Int) :
    ∃ outcome, (complete times (Ledger.push ⟨layout, ttl⟩ key) w).1 = .ok outcome := by
  obtain ⟨_, h⟩ := h.atRest
  obtain ⟨outcome, _, hok, -⟩ := h.push key ttl times
  exact ⟨outcome, hok⟩

/-- The status of a job in a queue is one that has not ended. -/
theorem Agrees.status_of_mem (h : Agrees layout s lane) {job : String}
    (hj : job ∈ (lane (layout.home job)).jobs) :
    s.status? (layout.pools.status job) = none ∨
      s.status? (layout.pools.status job) ∈ [some QueueState.queued.name,
        some QueueState.starting.name, some QueueState.started.name] := by
  cases hs : s.status? (layout.pools.status job) with
  | none => exact .inl rfl
  | some raw =>
    obtain ⟨state, rfl, ha⟩ := h.place job raw hs
    refine .inr ?_
    rcases Lane.mem_jobs.1 hj with hr | hw
    · rcases ha.of_running hr with rfl | rfl <;> simp
    · rw [ha.of_waiting hw]
      simp

/-- A job that is pushed while no other call is under way is the sole occupant of its queue and has
the status of a job that waits or is at work, unless a running job of the queue had outlived its
status. A push of a job that is queued already does not renew its status. -/
theorem push_sole_occupant {w : Surroundings} (h : Settled layout w) (key : JobKey) {ttl : Nat}
    (ht : 0 < ttl) (times : Nat → Int)
    (hexp : ∀ job ∈ w.store.queue (layout.queue key), w.store.InPool layout.pools.active job →
      w.store.status? (layout.pools.status job) = none →
      w.store.queue (layout.queue key) = [key.text]) :
    ∃ outcome w', complete times (Ledger.push ⟨layout, ttl⟩ key) w = (.ok outcome, w') ∧
      w'.store.queue (layout.queue key) = [key.text] ∧
      (w'.store.InPool layout.pools.ready key.text ∨
        w'.store.InPool layout.pools.active key.text) ∧
      (w'.store.status? (layout.status key) ∈ [some QueueState.queued.name,
          some QueueState.starting.name, some QueueState.started.name] ∨
        outcome.duplicate = true ∧ w.store.status? (layout.status key) = none ∧
          w'.store.status? (layout.status key) = none) := by
  obtain ⟨lane, hrest⟩ := h.atRest
  have hf := hrest.follows
  have ha := hrest.agrees
  have hqueue : w.store.queue (layout.queue key) = (lane (layout.home key.text)).jobs := by
    rw [hf.queue, layout.home_text]
  -- A running job with no live status is the pushed one, and alone.
  have halone : ∀ first, (lane (layout.home key.text)).running = some first →
      w.store.status? (layout.pools.status first) = none →
      w.store.queue (layout.queue key) = [key.text] := by
    intro first hr hs
    have hm : first ∈ (lane (layout.home key.text)).jobs := Lane.mem_jobs.2 (.inl hr)
    refine hexp first (hqueue ▸ hm) ((hf.active first).2 ?_) hs
    rwa [hf.own _ first hm]
  by_cases hj : key.text ∈ (lane (layout.home key.text)).jobs
  · have hq : w.store.queue (layout.queue key) = [key.text] := by
      rw [hqueue]
      exact hrest.jobs_of_mem hj fun first hr hs => hqueue ▸ halone first hr hs
    have hmem : key.text ∈ w.store.queue (layout.queue key) := hqueue ▸ hj
    refine ⟨_, w, complete_push_of_mem (l := ⟨layout, ttl⟩) hmem times, hq, ?_, ?_⟩
    · exact (hf.structured.head _ _ _ hq).imp And.left And.left
    · rcases ha.status_of_mem hj with hnone | hlive
      · exact .inr ⟨rfl, hnone, hnone⟩
      · exact .inl hlive
  · obtain ⟨size, old, run, w', l, hp, hd, hrun⟩ := Pushed.complete hf ha hj ttl times
    have hfree : l.running = none := by
      cases hl : l.running with
      | none => rfl
      | some first =>
        have hq := halone first (hd.running first hl).1 (hrun first hl)
        have hmem : key.text ∈ w.store.queue (layout.queue key) := by simp [hq]
        rw [hqueue] at hmem
        exact absurd hmem hj
    have hq := hd.queue_of_free hfree
    refine ⟨_, w', hp, hq, (hd.follows.structured.head _ _ _ hq).imp And.left And.left, .inl ?_⟩
    have hs : w'.store.status? (layout.status key) = _ := hd.status
    rw [hs, if_neg (by omega)]
    exact List.mem_cons_self

/-- What a call leaves behind. -/
def after (w : Surroundings) (op : Operation) : Surroundings :=
  (complete Int.ofNat (op.program ⟨⟨"b"⟩, 50⟩) w).2

/-- A job of the queue of all rivals that has got a slot. -/
def occupied : Surroundings := after (after {} (.push (rival "1"))) (.start 1)

/-- A job that waits and has outlived its status. -/
def outlived : Surroundings :=
  { after {} (.push (rival "1")) with store := (after {} (.push (rival "1"))).store.advance 50 }

/-- A job that has got a slot and has outlived its status. -/
def stuck : Surroundings := { occupied with store := occupied.store.advance 50 }

theorem settled_after {w : Surroundings} (h : Settled ⟨"b"⟩ w) {op : Operation}
    (hop : ∀ key, op ≠ .addState key .starting) : Settled ⟨"b"⟩ (after w op) :=
  .call h 50 op hop Int.ofNat

theorem settled_occupied : Settled ⟨"b"⟩ occupied :=
  settled_after (settled_after .start (by simp)) (by simp)

theorem push_sole_occupant_occupied : ∃ outcome w',
    complete Int.ofNat (Ledger.push ⟨⟨"b"⟩, 50⟩ (rival "2")) occupied = (.ok outcome, w') ∧
      w'.store.queue (KeyLayout.queue ⟨"b"⟩ (rival "2")) = [(rival "2").text] := by
  obtain ⟨outcome, w', hp, hq, -⟩ := push_sole_occupant settled_occupied (rival "2")
    (show 0 < 50 by decide) Int.ofNat (by decide +kernel)
  exact ⟨outcome, w', hp, hq⟩

/-- A job waits behind a running one that has outlived its status, and a push of a job that waits
does not renew its status, though both pushes succeed. -/
theorem not_push_sole_occupant :
    (Settled ⟨"b"⟩ stuck ∧
      (∃ outcome, (complete Int.ofNat (Ledger.push ⟨⟨"b"⟩, 50⟩ (rival "2")) stuck).1 =
        .ok outcome) ∧
      (complete Int.ofNat (Ledger.push ⟨⟨"b"⟩, 50⟩ (rival "2")) stuck).2.store.queue
        (KeyLayout.queue ⟨"b"⟩ (rival "2")) ≠ [(rival "2").text]) ∧
    Settled ⟨"b"⟩ outlived ∧
      (∃ outcome, (complete Int.ofNat (Ledger.push ⟨⟨"b"⟩, 50⟩ (rival "1")) outlived).1 =
        .ok outcome) ∧
      (complete Int.ofNat (Ledger.push ⟨⟨"b"⟩, 50⟩ (rival "1")) outlived).2.store.status?
        (KeyLayout.status ⟨"b"⟩ (rival "1")) = none := by
  have hstuck : Settled ⟨"b"⟩ stuck := .advance settled_occupied 50
  have houtlived : Settled ⟨"b"⟩ outlived := .advance (settled_after .start (by simp)) 50
  refine ⟨⟨hstuck, hstuck.push_ok _ _ _, fun e => ?_⟩, houtlived, houtlived.push_ok _ _ _,
    by decide +kernel⟩
  exact absurd (congrArg List.length e) (by decide +kernel)

end BuildQueue.Ledger
