import BuildQueue.Proofs.Store.View

/-!
# Lanes

A queue never holds more than one job with a slot and one behind it that waits. `Lane` is such a
queue; `Follows` says that the queues, the pools and the tables of a store are those of given lanes.
Each operation of the store then is an operation on one lane: a push replaces the waiting job, a
retired job is dropped, and an admitted job goes from waiting to running.
-/

namespace BuildQueue

/-- A queue as the job that has a slot and the job that waits. -/
@[ext]
structure Lane where
  running : Option String := none
  waiting : Option String := none
  apart : ∀ job, running = some job → waiting ≠ some job := by simp

namespace Lane

/-- The jobs of the lane, head first. -/
def jobs (l : Lane) : List String := l.running.toList ++ l.waiting.toList

/-- The job that may be given a slot. -/
def ready (l : Lane) : Option String := if l.running.isNone then l.waiting else none

/-- A new job takes the place of the one that waits. -/
def push (l : Lane) (job : String) (h : l.running ≠ some job) : Lane where
  running := l.running
  waiting := some job
  apart j hj := by rintro ⟨⟩; exact h hj

/-- The lane without a job. -/
def drop (l : Lane) (job : String) : Lane where
  running := l.running.filter (· ≠ job)
  waiting := l.waiting.filter (· ≠ job)
  apart j hr hw := l.apart j (Option.filter_eq_some_iff.1 hr).1 (Option.filter_eq_some_iff.1 hw).1

/-- The waiting job gets the slot. -/
def enter (l : Lane) : Lane where
  running := l.waiting

theorem mem_jobs {l : Lane} {job : String} :
    job ∈ l.jobs ↔ l.running = some job ∨ l.waiting = some job := by
  simp [jobs]

theorem nodup_jobs (l : Lane) : l.jobs.Nodup := by
  obtain ⟨_ | r, _ | w, h⟩ := l
  · simp [jobs]
  · simp [jobs]
  · simp [jobs]
  · have hne : r ≠ w := fun e => h r rfl (congrArg some e.symm)
    simpa [jobs] using hne

/-- A test that tells the running job from the waiting one takes the lane apart. -/
theorem filter_jobs (l : Lane) {p : String → Bool}
    (hp : ∀ job ∈ l.jobs, p job = true ↔ l.running = some job) :
    l.jobs.filter p = l.running.toList ∧ (l.jobs.filter fun job => !p job) = l.waiting.toList := by
  have hr : ∀ job ∈ l.running.toList, p job = true := fun job hj =>
    (hp job (List.mem_append_left _ hj)).2 (by simpa using hj)
  have hw : ∀ job ∈ l.waiting.toList, p job = false := fun job hj => by
    have hne : l.running ≠ some job := fun e => l.apart job e (by simpa using hj)
    simpa [hne] using hp job (List.mem_append_right _ hj)
  constructor
  · rw [jobs, List.filter_append, List.filter_eq_self.2 hr,
      List.filter_eq_nil_iff.2 fun job hj => by simp [hw job hj], List.append_nil]
  · rw [jobs, List.filter_append, List.filter_eq_nil_iff.2 fun job hj => by simp [hr job hj],
      List.filter_eq_self.2 fun job hj => by simp [hw job hj], List.nil_append]

/-- A lane of two jobs has a running one in front. -/
theorem of_jobs_eq_cons_cons {l : Lane} {first second : String} {rest : List String}
    (h : l.jobs = first :: second :: rest) :
    l.running = some first ∧ l.waiting = some second := by
  obtain ⟨_ | r, _ | w, ha⟩ := l <;> simp [jobs] at h
  exact ⟨congrArg some h.1, congrArg some h.2.1⟩

theorem length_jobs_le (l : Lane) : l.jobs.length ≤ 2 := by
  obtain ⟨_ | r, _ | w, h⟩ := l <;> simp [jobs]

theorem ready_eq_some {l : Lane} {job : String} :
    l.ready = some job ↔ l.running = none ∧ l.waiting = some job := by
  obtain ⟨_ | r, w, h⟩ := l <;> simp [ready]

/-- The job that may be given a slot is the head of the lane that has none. -/
theorem head?_jobs {l : Lane} {job : String} :
    l.jobs.head? = some job ∧ l.running ≠ some job ↔ l.ready = some job := by
  obtain ⟨_ | r, _ | w, h⟩ := l <;> simp [jobs, ready]

theorem jobs_drop (l : Lane) (job : String) : (l.drop job).jobs = l.jobs.filter (· ≠ job) := by
  simp [jobs, drop, Option.toList_filter]

theorem running_drop {l : Lane} {job j : String} :
    (l.drop job).running = some j ↔ j ≠ job ∧ l.running = some j := by
  simp [drop, Option.filter_eq_some_iff, and_comm]

theorem waiting_drop {l : Lane} {job j : String} :
    (l.drop job).waiting = some j ↔ j ≠ job ∧ l.waiting = some j := by
  simp [drop, Option.filter_eq_some_iff, and_comm]

theorem waiting_ne_none_of_drop {l : Lane} {job : String} (h : (l.drop job).waiting ≠ none) :
    l.waiting ≠ none := by
  obtain ⟨j, hj⟩ := Option.ne_none_iff_exists'.1 h
  rw [(waiting_drop.1 hj).2]
  exact Option.some_ne_none j

theorem mem_jobs_drop {l : Lane} {job j : String} :
    j ∈ (l.drop job).jobs ↔ j ≠ job ∧ j ∈ l.jobs := by
  rw [mem_jobs, running_drop, waiting_drop, mem_jobs]
  tauto

theorem drop_of_not_mem {l : Lane} {job : String} (h : job ∉ l.jobs) : l.drop job = l := by
  have hne : ∀ o : Option String, o ≠ some job → o.filter (· ≠ job) = o := by
    rintro (_ | j) hj
    · rfl
    · have : j ≠ job := fun e => hj (congrArg some e)
      simp [this]
  rw [mem_jobs, not_or] at h
  exact Lane.ext (hne _ h.1) (hne _ h.2)

theorem mem_jobs_push {l : Lane} {job j : String} {h : l.running ≠ some job} :
    j ∈ (l.push job h).jobs ↔ l.running = some j ∨ j = job := by
  simp [mem_jobs, push, eq_comm]

end Lane

/-- The queues, pools and tables of the store are those of the lanes, where each job belongs to the
queue that `home` names. -/
structure InProcess.Follows (s : InProcess) (pools : PoolKeys) (home : String → String)
    (lane : String → Lane) : Prop where
  queue : ∀ q, s.queue q = (lane q).jobs
  own : ∀ q, ∀ job ∈ (lane q).jobs, home job = q
  active : ∀ job, s.InPool pools.active job ↔ (lane (home job)).running = some job
  ready : ∀ job, s.InPool pools.ready job ↔ (lane (home job)).ready = some job
  owner : ∀ job, s.field? pools.owners job =
    if job ∈ (lane (home job)).jobs then some (home job) else none
  label : ∀ job, (s.field? pools.labels job).isSome ↔ job ∈ (lane (home job)).jobs

namespace InProcess.Follows

variable {s : InProcess} {pools : PoolKeys} {home : String → String} {lane : String → Lane}

theorem empty : ({} : InProcess).Follows pools home fun _ => {} := by
  constructor <;> simp [InProcess.queue, Lane.jobs, Lane.ready, InProcess.field?, InProcess.table]

/-- Nothing but the queues, the pools and the tables counts. -/
theorem congr (h : s.Follows pools home lane) {t : InProcess} (hq : ∀ q, t.queue q = s.queue q)
    (hp : ∀ p job, t.InPool p job ↔ s.InPool p job)
    (hf : ∀ n job, t.field? n job = s.field? n job) : t.Follows pools home lane where
  queue q := (hq q).trans (h.queue q)
  own := h.own
  active job := (hp _ _).trans (h.active job)
  ready job := (hp _ _).trans (h.ready job)
  owner job := (hf _ _).trans (h.owner job)
  label job := by rw [hf]; exact h.label job

theorem setStatus (h : s.Follows pools home lane) (name text : String) (ttl : Nat) :
    (s.setStatus name text ttl).Follows pools home lane :=
  h.congr (fun _ => rfl) (fun _ _ => Iff.rfl) fun _ _ => rfl

theorem advance (h : s.Follows pools home lane) (ms : Nat) :
    (s.advance ms).Follows pools home lane :=
  h.congr (fun _ => rfl) (fun _ _ => Iff.rfl) fun _ _ => rfl

/-- A job in no lane is in no pool. -/
theorem not_inPool (h : s.Follows pools home lane) {job : String}
    (hj : job ∉ (lane (home job)).jobs) :
    ¬ s.InPool pools.active job ∧ ¬ s.InPool pools.ready job := by
  rw [h.active, h.ready, Lane.ready_eq_some]
  rw [Lane.mem_jobs] at hj
  tauto

/-- Dropping a job takes it out of its lane and leaves the other lanes alone. -/
theorem retire (h : s.Follows pools home lane) (hd : pools.Distinct) (job : String) (now : Int) :
    (s.retire (home job) pools job now).2.Follows pools home
      (Function.update lane (home job) ((lane (home job)).drop job)) where
  queue q := by
    by_cases hq : q = home job
    · subst hq
      simp [Lane.jobs_drop, h.queue]
    · simp [hq, h.queue]
  own q j hj := by
    by_cases hq : q = home job
    · subst hq
      rw [Function.update_self, Lane.mem_jobs_drop] at hj
      exact h.own _ j hj.2
    · rw [Function.update_of_ne hq] at hj
      exact h.own q j hj
  active j := by
    rw [inPool_active_retire _ _ _ _ hd, h.active]
    by_cases hq : home j = home job
    · rw [hq, Function.update_self, Lane.running_drop]
    · rw [Function.update_of_ne hq]
      have : j ≠ job := fun e => hq (e ▸ rfl)
      tauto
  ready j := by
    rw [inPool_ready_retire _ _ _ _ hd, h.ready, h.active, h.queue, ← Lane.jobs_drop]
    by_cases hq : home j = home job
    · rw [hq, Function.update_self, ← Lane.running_drop, Lane.head?_jobs, Lane.ready_eq_some,
        Lane.ready_eq_some]
      refine ⟨?_, .inr⟩
      rintro (⟨hj, hr, hw⟩ | hr)
      · exact ⟨by simp [Lane.drop, hr], Lane.waiting_drop.2 ⟨hj, hw⟩⟩
      · exact hr
    · rw [Function.update_of_ne hq]
      have hj : j ≠ job := fun e => hq (e ▸ rfl)
      have hh : ((lane (home job)).drop job).jobs.head? ≠ some j := fun hh =>
        hq (h.own _ j (Lane.mem_jobs_drop.1 (List.mem_of_head? hh)).2)
      tauto
  owner j := by
    rw [field?_retire _ _ _ _ (.inl rfl), h.owner]
    by_cases hq : home j = home job
    · rw [hq, Function.update_self]
      by_cases hj : j = job <;> simp [hj, Lane.mem_jobs_drop]
    · have hj : j ≠ job := fun e => hq (e ▸ rfl)
      rw [Function.update_of_ne hq, if_neg hj]
  label j := by
    rw [field?_retire _ _ _ _ (.inr rfl)]
    by_cases hq : home j = home job
    · rw [hq, Function.update_self, Lane.mem_jobs_drop, ← hq, ← h.label]
      by_cases hj : j = job <;> simp [hj]
    · have hj : j ≠ job := fun e => hq (e ▸ rfl)
      rw [Function.update_of_ne hq, if_neg hj, h.label]

/-! ## A push -/

theorem runningIn (h : s.Follows pools home lane) (q : String) :
    s.runningIn q pools = (lane q).running.toList := by
  rw [InProcess.runningIn, h.queue]
  refine ((lane q).filter_jobs fun j hj => ?_).1
  rw [← h.own q j hj]
  exact h.active j

theorem waitingIn (h : s.Follows pools home lane) (q : String) :
    s.waitingIn q pools = (lane q).waiting.toList := by
  rw [InProcess.waitingIn, h.queue]
  refine ((lane q).filter_jobs fun j hj => ?_).2
  rw [← h.own q j hj]
  exact h.active j

/-- A push of a job that its lane does not have. -/
theorem push (h : s.Follows pools home lane) (hd : pools.Distinct) {job : String}
    (hj : job ∉ (lane (home job)).jobs) (label : String) (ttl : Nat) (now : Int) :
    (s.push (home job) pools job label ttl now).2.Follows pools home
      (Function.update lane (home job)
        ((lane (home job)).push job fun e => hj (Lane.mem_jobs.2 (.inl e)))) := by
  have hq : job ∉ s.queue (home job) := by rwa [h.queue]
  have hw := h.waitingIn (home job)
  have hrun := h.runningIn (home job)
  have hother : ∀ j, home j ≠ home job → j ≠ job ∧ j ∉ (lane (home job)).waiting.toList :=
    fun j e => ⟨fun e' => e (e' ▸ rfl), fun m => e (h.own _ j (List.mem_append_right _ m))⟩
  constructor
  · intro q
    rw [queue_push _ _ _ _ _ hq, hrun]
    by_cases e : q = home job
    · subst e
      simp [Lane.jobs, Lane.push]
    · simp [e, h.queue]
  · intro q j
    by_cases e : q = home job
    · subst e
      rw [Function.update_self, Lane.mem_jobs_push]
      rintro (hr | rfl)
      · exact h.own _ j (Lane.mem_jobs.2 (.inl hr))
      · rfl
    · rw [Function.update_of_ne e]
      exact h.own q j
  · intro j
    rw [inPool_active_push _ _ _ _ _ hq hd, h.active]
    by_cases e : home j = home job
    · rw [e, Function.update_self]
      rfl
    · rw [Function.update_of_ne e]
  · intro j
    rw [inPool_ready_push _ _ _ _ _ hq, h.ready, hw, hrun]
    by_cases e : home j = home job
    · rw [e, Function.update_self, Lane.ready_eq_some, Lane.ready_eq_some]
      simp only [Lane.push, Option.mem_toList, Option.toList_eq_nil_iff, Option.some.injEq]
      tauto
    · obtain ⟨hne, hnw⟩ := hother j e
      rw [Function.update_of_ne e]
      tauto
  · intro j
    rw [owner_push _ _ _ _ _ hq hd, hw, h.owner]
    by_cases e : home j = home job
    · rw [e, Function.update_self]
      by_cases hne : j = job
      · simp [hne, Lane.mem_jobs_push]
      · have ha := (lane (home job)).apart j
        by_cases hwj : (lane (home job)).waiting = some j
        · simp_all [Lane.mem_jobs_push]
        · have hm : j ∈ ((lane (home job)).push job fun e => hj (Lane.mem_jobs.2 (.inl e))).jobs ↔
              j ∈ (lane (home job)).jobs := by
            rw [Lane.mem_jobs_push, Lane.mem_jobs]
            tauto
          simp [hne, hwj, hm]
    · obtain ⟨hne, hnw⟩ := hother j e
      rw [Function.update_of_ne e, if_neg hne, if_neg hnw]
  · intro j
    rw [label_push _ _ _ _ _ hq hd, hw]
    by_cases e : home j = home job
    · rw [e, Function.update_self, Lane.mem_jobs_push]
      by_cases hne : j = job
      · simp [hne]
      · have ha := (lane (home job)).apart j
        by_cases hwj : (lane (home job)).waiting = some j
        · simp_all
        · have hl := h.label j
          rw [e, Lane.mem_jobs] at hl
          simp [hne, hwj, hl]
    · obtain ⟨hne, hnw⟩ := hother j e
      rw [Function.update_of_ne e, if_neg hne, if_neg hnw, h.label]

/-- A ready job gets a slot. -/
theorem enter (h : s.Follows pools home lane) (hd : pools.Distinct) {job : String}
    (hj : (lane (home job)).ready = some job) (now : Int) :
    ((s.leave pools.ready job).join pools.active job now).Follows pools home
      (Function.update lane (home job) (lane (home job)).enter) := by
  obtain ⟨hrun, hw⟩ := Lane.ready_eq_some.1 hj
  have hjobs : (lane (home job)).enter.jobs = (lane (home job)).jobs := by
    simp [Lane.jobs, Lane.enter, hrun]
  have hu : ∀ q, (Function.update lane (home job) (lane (home job)).enter q).jobs =
      (lane q).jobs := by
    intro q
    by_cases e : q = home job
    · subst e
      rw [Function.update_self, hjobs]
    · rw [Function.update_of_ne e]
  constructor
  · intro q
    rw [hu]
    exact h.queue q
  · intro q
    rw [hu]
    exact h.own q
  · intro j
    rw [inPool_join, inPool_leave, h.active]
    by_cases e : home j = home job
    · rw [e, Function.update_self]
      simp [Lane.enter, hrun, hw, eq_comm]
    · have hne : j ≠ job := fun e' => e (e' ▸ rfl)
      rw [Function.update_of_ne e]
      simp [hne]
  · intro j
    rw [inPool_join, inPool_leave, h.ready]
    by_cases e : home j = home job
    · rw [e, Function.update_self, Lane.ready_eq_some, Lane.ready_eq_some]
      simp [Lane.enter, hw, hd.ready_ne_active, eq_comm]
      tauto
    · have hne : j ≠ job := fun e' => e (e' ▸ rfl)
      rw [Function.update_of_ne e]
      simp [hne]
  · intro j
    rw [hu]
    exact h.owner j
  · intro j
    rw [hu]
    exact h.label j

end InProcess.Follows

end BuildQueue
