import BuildQueue.Proofs.Store.Lane

/-!
# Admission

On lanes a start takes one ready job after the other: it drops the job, or it gives it a slot
(`Walk`). It passes no job over, because the queue of a ready job has none at work
(`Follows.walk_start`), and it does not stop before the slots or the ready jobs are used up
(`Follows.exhausted_start`). Whatever a dropped and an admitted job leave intact, a start leaves
intact (`Follows.start`); and it gives out no more slots than it was told
(`length_active_admitReady`).
-/

namespace BuildQueue.InProcess

variable {pools : PoolKeys} {home : String → String} {ttl : Nat} {now : Int}

/-- What becomes of a job that is given a slot. -/
def admitted (s : InProcess) (pools : PoolKeys) (job : String) (ttl : Nat) (now : Int) :
    InProcess :=
  ((s.leave pools.ready job).join pools.active job now).setStatus (pools.status job)
    QueueState.starting.name ttl

/-- Another ready job stays ready when the lane of one is changed. -/
theorem ready_update {lane : String → Lane} {job other : String} (l : Lane)
    (hj : (lane (home job)).ready = some job) (ho : (lane (home other)).ready = some other)
    (hne : other ≠ job) :
    ((Function.update lane (home job) l) (home other)).ready = some other := by
  have hq : home other ≠ home job := by
    intro e
    rw [e, hj] at ho
    exact hne (Option.some.inj ho).symm
  rw [Function.update_of_ne hq, ho]

/-- A walk over ready jobs with room for `capacity` of them, from a store on lanes to the store that
it leaves. -/
inductive Walk (pools : PoolKeys) (home : String → String) (ttl : Nat) (now : Int) :
    InProcess → (String → Lane) → Nat → List String →
      StartReply → InProcess → (String → Lane) → Prop where
  | full {s : InProcess} {lane : String → Lane} (jobs : List String) :
    Walk pools home ttl now s lane 0 jobs ⟨[], []⟩ s lane
  | done {s : InProcess} {lane : String → Lane} (capacity : Nat) :
    Walk pools home ttl now s lane capacity [] ⟨[], []⟩ s lane
  | stale {s t : InProcess} {lane lane' : String → Lane} {room : Nat} {job : String}
    {rest : List String} {reply : StartReply} (hf : s.Follows pools home lane)
    (hj : (lane (home job)).ready = some job)
    (hs : s.status? (pools.status job) ≠ some QueueState.queued.name)
    (h : Walk pools home ttl now (s.retire (home job) pools job now).2
      (Function.update lane (home job) ((lane (home job)).drop job)) (room + 1) rest reply t
      lane') :
    Walk pools home ttl now s lane (room + 1) (job :: rest)
      { reply with stale := job :: reply.stale } t lane'
  | enter {s t : InProcess} {lane lane' : String → Lane} {room : Nat} {job : String}
    {rest : List String} {reply : StartReply} (hf : s.Follows pools home lane)
    (hj : (lane (home job)).ready = some job)
    (hs : s.status? (pools.status job) = some QueueState.queued.name)
    (h : Walk pools home ttl now (s.admitted pools job ttl now)
      (Function.update lane (home job) (lane (home job)).enter) room rest reply t lane') :
    Walk pools home ttl now s lane (room + 1) (job :: rest)
      { reply with admitted := job :: reply.admitted } t lane'

section Walk

variable {s t : InProcess} {lane lane' : String → Lane} {capacity : Nat} {jobs : List String}
  {reply : StartReply}

theorem Walk.follows (h : Walk pools home ttl now s lane capacity jobs reply t lane')
    (hf : s.Follows pools home lane) (hd : pools.Distinct) : t.Follows pools home lane' := by
  induction h with
  | full jobs => exact hf
  | done capacity => exact hf
  | @stale s t lane lane' room job rest reply _ hj hs _ ih => exact ih (hf.retire hd job now)
  | @enter s t lane lane' room job rest reply _ hj hs _ ih =>
    exact ih ((hf.enter hd hj now).setStatus _ _ _)

/-- What `admitReady` does is a walk, as long as only queues with a job at work are busy. -/
theorem Follows.walk (hf : s.Follows pools home lane) (hd : pools.Distinct) (hn : jobs.Nodup)
    (hr : ∀ job ∈ jobs, (lane (home job)).ready = some job) (capacity : Nat) {busy : List String}
    (hb : ∀ q ∈ busy, (lane q).running ≠ none) :
    ∃ lane', Walk pools home ttl now s lane capacity jobs
      (InProcess.admitReady pools ttl now s capacity busy jobs).1
      (InProcess.admitReady pools ttl now s capacity busy jobs).2 lane' := by
  induction jobs generalizing s lane capacity busy with
  | nil => exact ⟨lane, .done capacity⟩
  | cons job rest ih =>
    obtain ⟨hjob, hn'⟩ := List.nodup_cons.1 hn
    have hj := hr job List.mem_cons_self
    obtain ⟨hrun, hwait⟩ := Lane.ready_eq_some.1 hj
    have hrest : ∀ l : Lane, ∀ other ∈ rest,
        ((Function.update lane (home job) l) (home other)).ready = some other := by
      intro l other ho
      have hne : other ≠ job := fun e => hjob (e ▸ ho)
      exact ready_update l hj (hr other (List.mem_cons_of_mem _ ho)) hne
    have howner : s.field? pools.owners job = some (home job) := by
      rw [hf.owner, if_pos (Lane.mem_jobs.2 (.inr hwait))]
    cases capacity with
    | zero => exact ⟨lane, .full _⟩
    | succ room =>
      rw [InProcess.admitReady, howner]
      by_cases hs : s.status? (pools.status job) = some QueueState.queued.name
      · have hfree : ¬ busy.contains (home job) = true := fun hc =>
          hb _ (List.contains_iff_mem.1 hc) hrun
        rw [if_neg (not_not.2 hs), Option.getD_some, if_neg hfree]
        have hb' : ∀ q ∈ home job :: busy,
            (Function.update lane (home job) (lane (home job)).enter q).running ≠ none := by
          intro q hq
          by_cases e : q = home job
          · have hin : (lane (home job)).enter.running = some job := hwait
            rw [e, Function.update_self, hin]
            exact Option.some_ne_none job
          · rw [Function.update_of_ne e]
            exact hb q ((List.mem_cons.1 hq).resolve_left e)
        obtain ⟨lane', h⟩ := ih ((hf.enter hd hj now).setStatus _ _ _) hn' (hrest _) room hb'
        exact ⟨lane', .enter hf hj hs h⟩
      · rw [if_pos hs]
        have hb' : ∀ q ∈ busy, (Function.update lane (home job) ((lane (home job)).drop job)
            q).running ≠ none := by
          intro q hq
          have hne : q ≠ home job := fun e => hb q hq (e ▸ hrun)
          rw [Function.update_of_ne hne]
          exact hb q hq
        obtain ⟨lane', h⟩ := ih (hf.retire hd job now) hn' (hrest _) (room + 1) hb'
        exact ⟨lane', .stale hf hj hs h⟩

/-- A start is a walk over all ready jobs, with room for as many as there are free slots. -/
theorem Follows.walk_start (hf : s.Follows pools home lane) (hd : pools.Distinct) (limit ttl : Nat)
    (now : Int) :
    ∃ lane', Walk pools home ttl now s lane (limit - (s.members pools.active).length)
      ((s.members pools.ready).map Prod.fst) (s.start pools limit ttl now).1
      (s.start pools limit ttl now).2 lane' := by
  refine hf.walk hd (s.nodup_map_members _)
    (fun job hj => (hf.ready job).1 (s.mem_map_members.1 hj)) _ fun q hq => ?_
  obtain ⟨⟨job, since⟩, hm, ho⟩ := List.mem_filterMap.1 hq
  have hrun : (lane (home job)).running = some job :=
    (hf.active job).1 (s.mem_map_members.1 (List.mem_map.2 ⟨_, hm, rfl⟩))
  dsimp only at ho
  rw [hf.owner, if_pos (Lane.mem_jobs.2 (.inl hrun))] at ho
  rw [← Option.some.inj ho, hrun]
  exact Option.some_ne_none job

end Walk

/-! ## No slot stays free while a job is ready -/

section Exhausted

variable {s t : InProcess} {lane lane' : String → Lane} {job : String} {rest : List String}

/-- When the job of a ready queue is gone from it, or has a slot, the next ones are still ready. -/
theorem Follows.ready_rest (hf : s.Follows pools home lane)
    (hr : ∀ j, s.InPool pools.ready j → j ∈ job :: rest) {l : Lane} (hl : l.ready = none)
    (ht : t.Follows pools home (Function.update lane (home job) l)) (j : String)
    (hm : t.InPool pools.ready j) : j ∈ rest := by
  rw [ht.ready] at hm
  by_cases e : home j = home job
  · rw [e, Function.update_self, hl] at hm
    cases hm
  · rw [Function.update_of_ne e, ← hf.ready] at hm
    have hne : j ≠ job := fun h => e (h ▸ rfl)
    exact (List.mem_cons.1 (hr j hm)).resolve_left hne

/-- A walk over all ready jobs leaves none of them, or gives out all the slots that it has room
for. -/
theorem Walk.exhausted {capacity : Nat} {jobs : List String} {reply : StartReply}
    (h : Walk pools home ttl now s lane capacity jobs reply t lane') (hd : pools.Distinct)
    (hr : ∀ j, s.InPool pools.ready j → j ∈ jobs) :
    t.members pools.ready = [] ∨
      (s.members pools.active).length + capacity ≤ (t.members pools.active).length := by
  induction h with
  | full jobs => exact .inr (Nat.le_refl _)
  | @done s lane capacity =>
    refine .inl (List.eq_nil_iff_forall_not_mem.2 fun entry hm => ?_)
    have hp := s.mem_map_members.1 (List.mem_map_of_mem hm)
    exact absurd (hr _ hp) List.not_mem_nil
  | @stale s t lane lane' room job rest reply hf hj hs _ ih =>
    obtain ⟨hrun, hwait⟩ := Lane.ready_eq_some.1 hj
    have hdrop : ((lane (home job)).drop job).ready = none := by
      simp [Lane.ready, Lane.drop, hrun, hwait]
    have hactive : (s.members pools.active).length ≤
        ((s.retire (home job) pools job now).2.members pools.active).length := by
      refine length_members_le fun j hm => (s.inPool_active_retire _ _ _ hd j).2 ⟨?_, hm⟩
      rintro rfl
      rw [hf.active, hrun] at hm
      cases hm
    refine (ih (hf.ready_rest hr hdrop (hf.retire hd job now))).imp_right fun hle => ?_
    exact Nat.le_trans (Nat.add_le_add_right hactive _) hle
  | @enter s t lane lane' room job rest reply hf hj hs _ ih =>
    obtain ⟨hrun, hwait⟩ := Lane.ready_eq_some.1 hj
    have henter : (lane (home job)).enter.ready = none := by
      simp [Lane.ready, Lane.enter, hwait]
    have hactive : (s.members pools.active).length <
        ((s.admitted pools job ttl now).members pools.active).length := by
      have hnot : ¬ s.InPool pools.active job := by
        rw [hf.active, hrun]
        exact (Option.some_ne_none job).symm
      refine length_members_lt hnot (by simp [admitted]) fun j hm => ?_
      simp [admitted, hd.ready_ne_active.symm, hm]
    refine (ih (hf.ready_rest hr henter ((hf.enter hd hj now).setStatus _ _ _))).imp_right
      fun hle => ?_
    omega

/-- No ready job is left behind while fewer than `limit` jobs have a slot. -/
def Exhausted (s : InProcess) (pools : PoolKeys) (limit : Nat) : Prop :=
  s.members pools.ready = [] ∨ limit ≤ (s.members pools.active).length

theorem Follows.exhausted_start (hf : s.Follows pools home lane) (hd : pools.Distinct)
    (limit ttl : Nat) (now : Int) :
    (s.start pools limit ttl now).2.Exhausted pools limit := by
  obtain ⟨lane', hw⟩ := hf.walk_start hd limit ttl now
  refine (hw.exhausted hd fun j hj => s.mem_map_members.2 hj).imp_right fun hle => ?_
  omega

end Exhausted

/-- A property of a store and its lanes that a walk over ready jobs leaves intact: dropping a job
whose status is gone keeps it, and so does giving a slot to one that waits. -/
structure WalkInvariant (pools : PoolKeys) (home : String → String) (ttl : Nat) (now : Int)
    (P : InProcess → (String → Lane) → Prop) : Prop where
  stale : ∀ s lane job, s.Follows pools home lane → P s lane →
    (lane (home job)).ready = some job →
    s.status? (pools.status job) ≠ some QueueState.queued.name →
    P (s.retire (home job) pools job now).2
      (Function.update lane (home job) ((lane (home job)).drop job))
  enter : ∀ s lane job, s.Follows pools home lane → P s lane →
    (lane (home job)).ready = some job →
    s.status? (pools.status job) = some QueueState.queued.name →
    P (s.admitted pools job ttl now) (Function.update lane (home job) (lane (home job)).enter)

theorem Walk.invariant {P : InProcess → (String → Lane) → Prop}
    (hP : WalkInvariant pools home ttl now P) {s t : InProcess} {lane lane' : String → Lane}
    {capacity : Nat} {jobs : List String} {reply : StartReply}
    (h : Walk pools home ttl now s lane capacity jobs reply t lane') (hs : P s lane) :
    P t lane' := by
  induction h with
  | full jobs => exact hs
  | done capacity => exact hs
  | stale hf hj hq _ ih => exact ih (hP.stale _ _ _ hf hs hj hq)
  | enter hf hj hq _ ih => exact ih (hP.enter _ _ _ hf hs hj hq)

/-- What the walk leaves intact, a start does. -/
theorem Follows.start (hd : pools.Distinct) {P : InProcess → (String → Lane) → Prop}
    (hP : WalkInvariant pools home ttl now P) {s : InProcess} {lane : String → Lane}
    (hf : s.Follows pools home lane) (h : P s lane) (limit : Nat) :
    ∃ lane', (s.start pools limit ttl now).2.Follows pools home lane' ∧
      P (s.start pools limit ttl now).2 lane' := by
  obtain ⟨lane', hw⟩ := hf.walk_start hd limit ttl now
  exact ⟨lane', hw.follows hf hd, hw.invariant hP h⟩

theorem inPool_active_admitted (hd : pools.Distinct) {s : InProcess} {job j : String}
    (h : (s.admitted pools job ttl now).InPool pools.active j) :
    j = job ∨ s.InPool pools.active j := by
  simpa [admitted, hd.ready_ne_active.symm] using h

/-- No more slots are given out than there is room for. -/
theorem length_active_admitReady (hd : pools.Distinct) (jobs : List String) (s : InProcess)
    (capacity : Nat) (busy : List String) :
    ((InProcess.admitReady pools ttl now s capacity busy jobs).2.members pools.active).length ≤
      (s.members pools.active).length + capacity := by
  induction jobs generalizing s capacity busy with
  | nil => exact Nat.le_add_right _ _
  | cons job rest ih =>
    cases capacity with
    | zero => exact Nat.le_add_right _ _
    | succ room =>
      rw [InProcess.admitReady]
      split
      · split
        · refine Nat.le_trans (ih _ _ _)
            (Nat.add_le_add_right (length_members_le fun j hj => ?_) _)
          exact ((s.inPool_active_retire _ _ _ hd j).1 hj).2
        · refine Nat.le_trans (ih _ _ _)
            (Nat.add_le_add_right (length_members_le fun j hj => ?_) _)
          exact ((s.inPool_leave _ _ _ j).1 hj).2
      · split
        · exact ih _ _ _
        · have hl := length_members_le_succ (s := s) (t := s.admitted pools job ttl now)
            fun j hj => inPool_active_admitted hd hj
          have := ih (s.admitted pools job ttl now) room
            ((s.field? pools.owners job).getD job :: busy)
          exact Nat.le_trans this (by omega)

theorem length_active_start (hd : pools.Distinct) (s : InProcess) (limit : Nat) :
    ((s.start pools limit ttl now).2.members pools.active).length ≤
      max (s.members pools.active).length limit := by
  refine Nat.le_trans (length_active_admitReady hd _ s _ _) ?_
  omega

end BuildQueue.InProcess
