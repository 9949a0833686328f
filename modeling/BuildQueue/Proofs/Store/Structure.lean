import BuildQueue.Proofs.Store.Admission

/-!
# The structure of the queues

Whatever is done to an empty store, as long as each job is used with its own queue, every queue has
at most two jobs, of which the head is in exactly one pool and the other in none, and the tables are
about the queued jobs only (`run_structured`). One operation keeps the store on lanes
(`Follows.apply`), and lanes have that structure (`Follows.structured`).
-/

namespace BuildQueue

/-- The operation uses the names of one deployment, and each job with the queue of `home`. -/
def StoreCall.Respects (pools : PoolKeys) (home : String → String) : StoreCall → Prop
  | .push queue p job _ _ => p = pools ∧ queue = home job
  | .start p _ _ => p = pools
  | .swap p change _ => p = pools ∧ change.queue = home change.job
  | .status _ => True
  | .pool _ _ => True

/-- What may be done to a store: an operation of a client at the client's time, the completion of a
job, or the passing of time. -/
inductive StoreEvent where
  | call (call : StoreCall) (now : Int)
  | complete (queue : String) (pools : PoolKeys) (job : String) (now : Int)
  | advance (ms : Nat)

def StoreEvent.Respects (pools : PoolKeys) (home : String → String) : StoreEvent → Prop
  | .call c _ => c.Respects pools home
  | .complete queue p job _ => p = pools ∧ queue = home job
  | .advance _ => True

namespace InProcess

def apply (s : InProcess) : StoreEvent → InProcess
  | .call c now => (s.perform now c).2
  | .complete queue pools job now => (s.retire queue pools job now).2
  | .advance ms => s.advance ms

/-- The store after events that happen one after the other. -/
def run (s : InProcess) (events : List StoreEvent) : InProcess := events.foldl apply s

/-- How the queues, the pools and the tables of a store belong together. -/
structure Structured (s : InProcess) (pools : PoolKeys) (home : String → String) : Prop where
  nodup : ∀ q, (s.queue q).Nodup
  length_le : ∀ q, (s.queue q).length ≤ 2
  /-- The head of a queue is in exactly one pool. -/
  head : ∀ q job rest, s.queue q = job :: rest →
    (s.InPool pools.ready job ∧ ¬ s.InPool pools.active job) ∨
      (s.InPool pools.active job ∧ ¬ s.InPool pools.ready job)
  /-- A job behind the head waits for a head that has a slot. -/
  second : ∀ q first job rest, s.queue q = first :: job :: rest →
    s.InPool pools.active first ∧ ¬ s.InPool pools.ready job ∧ ¬ s.InPool pools.active job
  pooled : ∀ job, s.InPool pools.ready job ∨ s.InPool pools.active job →
    (s.queue (home job)).head? = some job
  owner : ∀ job q, s.field? pools.owners job = some q ↔ q = home job ∧ ∃ q, job ∈ s.queue q
  label : ∀ job, (s.field? pools.labels job).isSome ↔ ∃ q, job ∈ s.queue q

namespace Follows

variable {s : InProcess} {pools : PoolKeys} {home : String → String} {lane : String → Lane}

theorem mem_queue (h : s.Follows pools home lane) {job : String} :
    (∃ q, job ∈ s.queue q) ↔ job ∈ (lane (home job)).jobs := by
  constructor
  · rintro ⟨q, hq⟩
    rw [h.queue] at hq
    rwa [h.own q job hq]
  · intro hj
    exact ⟨home job, by rwa [h.queue]⟩

/-- A store on lanes has the structure of lanes. -/
theorem structured (h : s.Follows pools home lane) : s.Structured pools home where
  nodup q := by
    rw [h.queue]
    exact (lane q).nodup_jobs
  length_le q := by
    rw [h.queue]
    exact (lane q).length_jobs_le
  head q job rest hq := by
    rw [h.queue] at hq
    have hh : (lane q).jobs.head? = some job := by rw [hq]; rfl
    have hown := h.own q job (hq ▸ List.mem_cons_self)
    rw [h.ready, h.active, hown]
    by_cases hr : (lane q).running = some job
    · exact .inr ⟨hr, by simp [Lane.ready, hr]⟩
    · exact .inl ⟨Lane.head?_jobs.1 ⟨hh, hr⟩, hr⟩
  second q first job rest hq := by
    rw [h.queue] at hq
    have hf := h.own q first (by simp [hq])
    have hj := h.own q job (by simp [hq])
    rw [h.active, h.ready, h.active, hf, hj]
    obtain ⟨hr, hw⟩ := Lane.of_jobs_eq_cons_cons hq
    have hne : (lane q).running ≠ some job := fun e => (lane q).apart job e hw
    exact ⟨hr, by simp [Lane.ready, hr], hne⟩
  pooled job hp := by
    rw [h.ready, h.active, Lane.ready_eq_some] at hp
    rw [h.queue]
    rcases hp with ⟨hr, hw⟩ | hr
    · simp [Lane.jobs, hr, hw]
    · simp [Lane.jobs, hr]
  owner job q := by
    rw [h.owner, h.mem_queue]
    split
    · next hj => simp [hj, eq_comm]
    · next hj => simp [hj]
  label job := by rw [h.label, h.mem_queue]

/-- A swap of statuses. -/
theorem swap (h : s.Follows pools home lane) (hd : pools.Distinct) {swap : StatusSwap}
    (hq : swap.queue = home swap.job) (ttl : Nat) (now : Int) :
    ∃ lane', (s.swap pools swap ttl now).2.Follows pools home lane' := by
  by_cases hs : s.status? (pools.status swap.job) = some swap.expected
  · obtain ⟨_, e⟩ := s.swap_of_eq hs ttl now
    rw [e]
    dsimp only
    split
    · rw [hq]
      exact ⟨_, (h.setStatus _ _ _).retire hd _ _⟩
    · exact ⟨lane, h.setStatus _ _ _⟩
  · rw [s.swap_of_ne hs]
    exact ⟨lane, h⟩

/-- An operation keeps the store on lanes. -/
theorem perform (h : s.Follows pools home lane) (hd : pools.Distinct) {c : StoreCall}
    (hc : c.Respects pools home) (now : Int) :
    ∃ lane', (s.perform now c).2.Follows pools home lane' := by
  cases c with
  | push queue p job label ttl =>
    obtain ⟨rfl, rfl⟩ := hc
    by_cases hj : job ∈ s.queue (home job)
    · refine ⟨lane, ?_⟩
      simp only [InProcess.perform, s.push_of_mem _ _ _ _ hj]
      exact h
    · rw [h.queue] at hj
      exact ⟨_, h.push hd hj label ttl now⟩
  | start p limit ttl =>
    obtain rfl : p = pools := hc
    have hw : WalkInvariant p home ttl now fun _ _ => True :=
      ⟨fun _ _ _ _ _ _ _ => trivial, fun _ _ _ _ _ _ _ => trivial⟩
    obtain ⟨lane', h', -⟩ := h.start hd hw trivial limit
    exact ⟨lane', h'⟩
  | swap p swap ttl =>
    obtain ⟨rfl, hq⟩ := hc
    exact h.swap hd hq ttl now
  | status name => exact ⟨lane, h⟩
  | pool p which => exact ⟨lane, h⟩

theorem apply (h : s.Follows pools home lane) (hd : pools.Distinct) {e : StoreEvent}
    (he : e.Respects pools home) : ∃ lane', (s.apply e).Follows pools home lane' := by
  cases e with
  | call c now => exact h.perform hd he now
  | complete queue p job now =>
    obtain ⟨rfl, rfl⟩ := he
    exact ⟨_, h.retire hd job now⟩
  | advance ms => exact ⟨lane, h.advance ms⟩

theorem run (h : s.Follows pools home lane) (hd : pools.Distinct) {events : List StoreEvent}
    (he : ∀ e ∈ events, e.Respects pools home) :
    ∃ lane', (s.run events).Follows pools home lane' := by
  induction events generalizing s lane with
  | nil => exact ⟨lane, h⟩
  | cons e events ih =>
    obtain ⟨lane', h'⟩ := h.apply hd (he e List.mem_cons_self)
    exact ih h' fun e' he' => he e' (List.mem_cons_of_mem _ he')

end Follows

/-- Whatever happens to an empty store, the queues, the pools and the tables belong together, as
long as each job is used with its own queue. -/
theorem run_structured {pools : PoolKeys} (hd : pools.Distinct) {home : String → String}
    {events : List StoreEvent} (he : ∀ e ∈ events, e.Respects pools home) :
    (({} : InProcess).run events).Structured pools home := by
  obtain ⟨lane, h⟩ := Follows.empty.run hd he
  exact h.structured

/-- A job gets a slot, two more of its queue are pushed, and the first one is completed. -/
def handover (pools : PoolKeys) : List StoreEvent :=
  [.call (.push "queue" pools "a" "#1" 50) 0, .call (.start pools 1 50) 1,
    .call (.push "queue" pools "b" "#2" 50) 2, .advance 60,
    .call (.push "queue" pools "c" "#3" 50) 3, .complete "queue" pools "a" 4]

theorem run_structured_handover :
    (({} : InProcess).run (handover (KeyLayout.mk "builds").pools)).Structured
        (KeyLayout.mk "builds").pools (Function.const String "queue") ∧
      (({} : InProcess).run (handover (KeyLayout.mk "builds").pools)).queue "queue" = ["c"] :=
  ⟨run_structured (KeyLayout.mk "builds").pools_distinct
    (by simp [handover, StoreEvent.Respects, StoreCall.Respects]), by decide +kernel⟩

end InProcess

end BuildQueue
