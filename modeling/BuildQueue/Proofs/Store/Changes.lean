import BuildQueue.Proofs.Store.Writes

/-!
# The writes of an operation in order

An operation writes statuses one after the other, a start one for each job that it admits
(`changes`). These are what the operation does to the statuses, each with the live status of its job
just before, and nothing else is done to any of them (`written_perform`).
-/

namespace BuildQueue

/-- A write of a job's status. -/
structure StatusChange where
  job : String
  /-- What is written. -/
  text : String
  /-- The live status of the job just before. -/
  previous : Option String
  deriving DecidableEq, Repr

/-- The lifetime that an operation gives to what it writes. -/
def StoreCall.lifetime? : StoreCall → Option Nat
  | .push _ _ _ _ ttl | .start _ _ ttl | .swap _ _ ttl => some ttl
  | .status _ | .pool _ _ => none

namespace InProcess

variable (s : InProcess) (pools : PoolKeys) (ttl : Nat)

/-- Texts that are written to the statuses of jobs one after the other, as changes. -/
def trail (s : InProcess) : List (String × String) → List StatusChange
  | [] => []
  | (job, text) :: rest =>
    ⟨job, text, s.status? (pools.status job)⟩ ::
      (s.setStatus (pools.status job) text ttl).trail rest

/-- The writes that an operation makes, the first one first. -/
def changes (s : InProcess) (now : Int) : StoreCall → List StatusChange
  | .push queue pools job label ttl =>
    if (s.push queue pools job label ttl now).1.duplicate then []
    else s.trail pools ttl [(job, QueueState.queued.name)]
  | .start pools max ttl =>
    s.trail pools ttl
      ((s.start pools max ttl now).1.admitted.map fun job => (job, QueueState.starting.name))
  | .swap pools change ttl =>
    match (s.swap pools change ttl now).1 with
    | .applied _ => s.trail pools ttl [(change.job, change.next)]
    | .rejected _ => []
  | .status _ => []
  | .pool _ _ => []

variable {s pools ttl}

/-! ## A start -/

/-- The admitted jobs are some of those that were ready, in their order. -/
theorem admitted_sublist (now : Int) (jobs : List String) (s : InProcess) (capacity : Nat)
    (busy : List String) :
    (admitReady pools ttl now s capacity busy jobs).1.admitted.Sublist jobs := by
  induction jobs generalizing s capacity busy with
  | nil => simp [admitReady]
  | cons job rest ih =>
    cases capacity with
    | zero => simp [admitReady]
    | succ room =>
      rw [admitReady]
      split
      · split
        · exact (ih _ _ _).cons job
        · exact (ih _ _ _).cons job
      · split
        · exact (ih _ _ _).cons job
        · exact (ih _ _ _).cons_cons job

/-- A job that a walk drops was one of those walked over, and did not wait. -/
theorem Walk.not_queued_of_stale {home : String → String} {now : Int} {lane lane' : String → Lane}
    {t : InProcess} {capacity : Nat} {jobs : List String} {reply : StartReply}
    (h : Walk pools home ttl now s lane capacity jobs reply t lane') (hn : jobs.Nodup)
    {job : String} (hj : job ∈ reply.stale) :
    job ∈ jobs ∧ s.status? (pools.status job) ≠ some QueueState.queued.name := by
  induction h with
  | full jobs => cases hj
  | done capacity => cases hj
  | @stale s t lane lane' room head rest reply _ _ hs _ ih =>
    rcases List.mem_cons.1 hj with rfl | hj
    · exact ⟨List.mem_cons_self, hs⟩
    · obtain ⟨hm, hq⟩ := ih (List.nodup_cons.1 hn).2 hj
      rw [status?_retire] at hq
      exact ⟨List.mem_cons_of_mem _ hm, hq⟩
  | @enter s t lane lane' room head rest reply _ _ _ _ ih =>
    obtain ⟨hhead, hrest⟩ := List.nodup_cons.1 hn
    obtain ⟨hm, hq⟩ := ih hrest hj
    have hne : job ≠ head := fun e => hhead (e ▸ hm)
    rw [admitted, status?_setStatus_of_ne _ _ hne] at hq
    exact ⟨List.mem_cons_of_mem _ hm, hq⟩

theorem queued_of_start {max : Nat} {now : Int} {job : String}
    (h : job ∈ (s.start pools max ttl now).1.admitted) :
    s.status? (pools.status job) = some QueueState.queued.name :=
  (s.queued_of_admitted pools ttl now (s.nodup_map_members pools.ready) _ _ h).2

/-- A start admits none of the jobs that it drops. -/
theorem Follows.not_stale_of_admitted {home : String → String} {lane : String → Lane}
    (hf : s.Follows pools home lane) (hd : pools.Distinct) {max : Nat} {now : Int} {job : String}
    (h : job ∈ (s.start pools max ttl now).1.admitted) :
    job ∉ (s.start pools max ttl now).1.stale := by
  obtain ⟨lane', hw⟩ := hf.walk_start hd max ttl now
  intro hs
  exact (hw.not_queued_of_stale (s.nodup_map_members pools.ready) hs).2 (queued_of_start h)

theorem trail_of_queued {jobs : List String} (hn : jobs.Nodup)
    (hs : ∀ job ∈ jobs, s.status? (pools.status job) = some QueueState.queued.name)
    (text : String) : s.trail pools ttl (jobs.map fun job => (job, text)) =
      jobs.map fun job => ⟨job, text, some QueueState.queued.name⟩ := by
  induction jobs generalizing s with
  | nil => rfl
  | cons job rest ih =>
    obtain ⟨hjob, hrest⟩ := List.nodup_cons.1 hn
    rw [List.map_cons, trail, hs job List.mem_cons_self, List.map_cons]
    refine congrArg _ (ih hrest fun j hj => ?_)
    have hne : j ≠ job := fun e => hjob (e ▸ hj)
    rw [status?_setStatus_of_ne _ _ hne]
    exact hs j (List.mem_cons_of_mem _ hj)

/-- A start writes the statuses of the jobs that it admits, and all of them waited. -/
theorem changes_start (s : InProcess) (pools : PoolKeys) (max ttl : Nat) (now : Int) :
    s.changes now (.start pools max ttl) = (s.start pools max ttl now).1.admitted.map
      fun job => ⟨job, QueueState.starting.name, some QueueState.queued.name⟩ := by
  have hn := s.nodup_map_members pools.ready
  exact trail_of_queued ((admitted_sublist now _ s _ _).nodup hn) (fun _ => queued_of_start) _

/-! ## What is done to the statuses -/

/-- What has been done to the statuses from one store to another: the changes, each to a job of its
own, with its live status before, and with the lifetime `ttl` after it. -/
structure Written (pools : PoolKeys) (ttl : Nat) (s t : InProcess) (cs : List StatusChange) :
    Prop where
  once : (cs.map StatusChange.job).Nodup
  made : ∀ x ∈ cs, x.previous = s.status? (pools.status x.job) ∧
    t.statuses[pools.status x.job]? = some (x.text, s.clock + ttl)
  kept : ∀ name : String, (∀ x ∈ cs, name ≠ pools.status x.job) →
    t.statuses[name]? = s.statuses[name]?

theorem Written.of_jobs {t : InProcess} {jobs : List String} {text : String} (hn : jobs.Nodup)
    (ht : ∀ name : String, t.statuses[name]? = if ∃ job ∈ jobs, name = pools.status job then
      some (text, s.clock + ttl) else s.statuses[name]?) :
    Written pools ttl s t (jobs.map fun job => ⟨job, text, s.status? (pools.status job)⟩) where
  once := by
    rw [List.map_map]
    exact (List.map_id jobs).symm ▸ hn
  made x hx := by
    obtain ⟨job, hj, rfl⟩ := List.mem_map.1 hx
    exact ⟨rfl, (ht _).trans (if_pos ⟨job, hj, rfl⟩)⟩
  kept name hname :=
    (ht name).trans (if_neg fun ⟨job, hj, e⟩ => hname _ (List.mem_map_of_mem hj) e)

theorem Written.nothing {t : InProcess}
    (h : ∀ name : String, t.statuses[name]? = s.statuses[name]?) : Written pools ttl s t [] where
  once := .nil
  made _ hx := absurd hx List.not_mem_nil
  kept name _ := h name

/-- The changes of an operation are what it does to the statuses. -/
theorem written_perform (s : InProcess) {home : String → String} (now : Int) {c : StoreCall}
    (hc : c.Respects pools home) (hl : ∀ life ∈ c.lifetime?, life = ttl) :
    Written pools ttl s (s.perform now c).2 (s.changes now c) := by
  have hentry := s.statuses_apply (.call c now)
  cases c with
  | push queue p job label life =>
    obtain ⟨rfl, -⟩ := hc
    obtain rfl := hl life rfl
    rw [changes]
    cases hd : (s.push queue p job label life now).1.duplicate with
    | true =>
      rw [if_pos rfl]
      refine .nothing fun name => (hentry name).trans ?_
      simp [write?, hd]
    | false =>
      rw [if_neg Bool.false_ne_true]
      refine .of_jobs (List.pairwise_singleton _ job) fun name => (hentry name).trans ?_
      by_cases hn : name = p.status job
      · simp [write?, hd, hn, StatusWrite.text, StoreEvent.ttl]
      · simp [write?, hn]
  | start p max life =>
    obtain rfl : p = pools := hc
    obtain rfl := hl life rfl
    have hq : ∀ job ∈ (s.start p max life now).1.admitted,
        s.status? (p.status job) = some QueueState.queued.name := fun job => queued_of_start
    have hsame : s.changes now (.start p max life) = (s.start p max life now).1.admitted.map
        fun job => ⟨job, QueueState.starting.name, s.status? (p.status job)⟩ := by
      rw [changes_start]
      exact List.map_congr_left fun job hj => by rw [hq job hj]
    rw [hsame]
    refine .of_jobs ((admitted_sublist now _ s _ _).nodup (s.nodup_map_members p.ready))
      fun name => (hentry name).trans ?_
    rw [write?]
    by_cases hn : ∃ job ∈ (s.start p max life now).1.admitted, name = p.status job
    · rw [if_pos hn, if_pos hn]
      rfl
    · rw [if_neg hn, if_neg hn]
  | swap p change life =>
    obtain ⟨rfl, -⟩ := hc
    obtain rfl := hl life rfl
    rw [changes]
    cases hr : (s.swap p change life now).1 with
    | rejected raw =>
      refine .nothing fun name => (hentry name).trans ?_
      simp [write?, hr]
    | applied held =>
      refine .of_jobs (List.pairwise_singleton _ change.job) fun name => (hentry name).trans ?_
      by_cases hn : name = p.status change.job
      · simp [write?, hr, hn, StatusWrite.text, StoreEvent.ttl]
      · simp [write?, hr, hn]
  | status name => exact .nothing hentry
  | pool p which => exact .nothing hentry

/-- The text of a status is that of the change of its job, or what it was. -/
theorem Written.text {t : InProcess} {cs : List StatusChange} (h : Written pools ttl s t cs)
    (job : String) : t.statuses[pools.status job]?.map Prod.fst =
      ((cs.filter (·.job = job)).getLast?.map StatusChange.text).or
        (s.statuses[pools.status job]?.map Prod.fst) := by
  cases hlast : (cs.filter (·.job = job)).getLast? with
  | none =>
    have hnone := List.filter_eq_nil_iff.1 (List.getLast?_eq_none_iff.1 hlast)
    rw [h.kept _ fun x hx e => hnone x hx (decide_eq_true ((status_inj pools).1 e).symm)]
    rfl
  | some x =>
    obtain ⟨hx, hjob⟩ := List.mem_filter.1 (List.mem_of_getLast? hlast)
    obtain rfl := of_decide_eq_true hjob
    rw [(h.made x hx).2]
    rfl

end InProcess

end BuildQueue
