import BuildQueue.Proofs.Store.Structure

/-!
# Where jobs come from

A store holds nothing of a job that was never pushed: no place in a queue, no membership of a pool,
no entry of a table and no status, not even one that has expired (`Confined`). Operations other than
a push move jobs that the store holds already (`Confined.apply`).
-/

namespace BuildQueue

/-- A job that the operation brings into the store is one of `K`. -/
def StoreCall.Brings (K : String → Prop) : StoreCall → Prop
  | .push _ _ job _ _ => K job
  | _ => True

def StoreEvent.Brings (K : String → Prop) : StoreEvent → Prop
  | .call c _ => c.Brings K
  | _ => True

namespace InProcess

/-- Whatever the store holds is about jobs of `K`. -/
structure Confined (pools : PoolKeys) (K : String → Prop) (s : InProcess) : Prop where
  queued : ∀ queue, ∀ job ∈ s.queue queue, K job
  pooled : ∀ pool job, s.InPool pool job → K job
  listed : ∀ table job text, s.field? table job = some text → K job
  stated : ∀ name entry, s.statuses[name]? = some entry → ∃ job, name = pools.status job ∧ K job

namespace Confined

variable {pools : PoolKeys} {K L : String → Prop} {s : InProcess}

theorem empty : Confined pools K {} where
  queued queue job h := by simp [InProcess.queue] at h
  pooled pool job h := absurd h (inPool_empty pool job)
  listed table job text h := by simp [field?, InProcess.table] at h
  stated name entry h := by simp at h

theorem mono (h : Confined pools K s) (hKL : ∀ job, K job → L job) : Confined pools L s where
  queued queue job hj := hKL job (h.queued queue job hj)
  pooled pool job hj := hKL job (h.pooled pool job hj)
  listed table job text hj := hKL job (h.listed table job text hj)
  stated name entry hn := by
    obtain ⟨job, hname, hk⟩ := h.stated name entry hn
    exact ⟨job, hname, hKL job hk⟩

/-- A job with a live status is one of those. -/
theorem of_status? (h : Confined pools K s) {job raw : String}
    (hs : s.status? (pools.status job) = some raw) : K job := by
  obtain ⟨entry, he, -⟩ := Option.map_eq_some_iff.1 (text_of_status? hs)
  obtain ⟨other, hname, hk⟩ := h.stated _ entry he
  rwa [(status_inj pools).1 hname]

/-! ## Small operations -/

section Small

variable (h : Confined pools K s)
include h

theorem advance (ms : Nat) : Confined pools K (s.advance ms) :=
  ⟨h.queued, h.pooled, h.listed, h.stated⟩

theorem setQueue (queue : String) {jobs : List String} (hj : ∀ job ∈ jobs, K job) :
    Confined pools K (s.setQueue queue jobs) where
  queued q job hq := by
    rw [queue_setQueue] at hq
    split at hq
    · exact hj job hq
    · exact h.queued q job hq
  pooled := h.pooled
  listed := h.listed
  stated := h.stated

theorem join (pool : String) {job : String} (hj : K job) (now : Int) :
    Confined pools K (s.join pool job now) where
  queued := h.queued
  pooled p j hp := by
    rcases (s.inPool_join pool job now p j).1 hp with ⟨-, rfl⟩ | hp
    · exact hj
    · exact h.pooled p j hp
  listed := h.listed
  stated := h.stated

theorem leave (pool job : String) : Confined pools K (s.leave pool job) where
  queued := h.queued
  pooled p j hp := h.pooled p j ((s.inPool_leave pool job p j).1 hp).2
  listed := h.listed
  stated := h.stated

theorem setField (table : String) {job : String} (hj : K job) (text : String) :
    Confined pools K (s.setField table job text) where
  queued := h.queued
  pooled := h.pooled
  listed t j x hf := by
    rw [field?_setField] at hf
    split at hf
    · next hc => exact hc.2 ▸ hj
    · exact h.listed t j x hf
  stated := h.stated

theorem eraseField (table job : String) : Confined pools K (s.eraseField table job) where
  queued := h.queued
  pooled := h.pooled
  listed t j x hf := by
    rw [field?_eraseField] at hf
    split at hf
    · cases hf
    · exact h.listed t j x hf
  stated := h.stated

theorem setStatus {job : String} (hj : K job) (text : String) (ttl : Nat) :
    Confined pools K (s.setStatus (pools.status job) text ttl) where
  queued := h.queued
  pooled := h.pooled
  listed := h.listed
  stated name entry hn := by
    by_cases he : pools.status job = name
    · exact ⟨job, he.symm, hj⟩
    · refine h.stated name entry ?_
      simpa [InProcess.setStatus, Std.TreeMap.getElem?_insert, he] using hn

/-! ## Operations -/

theorem unlist (p : PoolKeys) (job : String) : Confined pools K (s.unlist p job) :=
  ((h.leave _ _).eraseField _ _).eraseField _ _

theorem foldl_unlist (p : PoolKeys) (jobs : List String) :
    Confined pools K (jobs.foldl (·.unlist p ·) s) := by
  induction jobs generalizing s with
  | nil => exact h
  | cons job jobs ih => exact ih (h.unlist p job)

theorem promote (queue : String) (p : PoolKeys) (now : Int) :
    Confined pools K (s.promote queue p now) := by
  unfold InProcess.promote
  split
  · exact h
  · next head hq =>
    split
    · exact h.join _ (h.queued queue head (List.mem_of_head? hq)) now
    · exact h

theorem retire (queue : String) (p : PoolKeys) (job : String) (now : Int) :
    Confined pools K (s.retire queue p job now).2 := by
  refine (((h.leave p.active job).unlist p job).setQueue queue fun j hj => ?_).promote queue p now
  exact h.queued queue j (List.mem_filter.1 hj).1

theorem push (queue : String) {job : String} (hj : K job) (label : String) (ttl : Nat)
    (now : Int) : Confined pools K (s.push queue pools job label ttl now).2 := by
  by_cases hq : job ∈ s.queue queue
  · rw [s.push_of_mem pools label ttl now hq]
    exact h
  · rw [s.push_of_not_mem pools label ttl now hq]
    refine Confined.setStatus ?_ hj _ ttl
    have hkept : ∀ j ∈ s.runningIn queue pools ++ [job], K j := by
      refine List.forall_mem_append.2 ⟨fun j hm => ?_, List.forall_mem_singleton.2 hj⟩
      exact h.queued queue j (List.mem_filter.1 hm).1
    have hlisted := (((h.foldl_unlist pools (s.waitingIn queue pools)).setQueue queue
      hkept).setField pools.owners hj queue).setField pools.labels hj label
    unfold enqueued
    dsimp only
    split
    · exact hlisted.join _ hj now
    · exact hlisted

theorem admitReady (ttl : Nat) (now : Int) (capacity : Nat) (busy : List String)
    {jobs : List String} (hj : ∀ job ∈ jobs, K job) :
    Confined pools K (InProcess.admitReady pools ttl now s capacity busy jobs).2 := by
  induction jobs generalizing s capacity busy with
  | nil => exact h
  | cons job rest ih =>
    obtain ⟨hjob, hrest⟩ := List.forall_mem_cons.1 hj
    cases capacity with
    | zero => exact h
    | succ room =>
      rw [InProcess.admitReady]
      split
      · split
        · exact ih (h.retire _ pools job now) _ _ hrest
        · exact ih (h.leave _ job) _ _ hrest
      · split
        · exact ih h _ _ hrest
        · exact ih (((h.leave _ job).join _ hjob now).setStatus hjob _ ttl) _ _ hrest

theorem start (max ttl : Nat) (now : Int) :
    Confined pools K (s.start pools max ttl now).2 :=
  h.admitReady ttl now _ _ fun job hj => h.pooled _ job (s.mem_map_members.1 hj)

/-- A swap finds the status of a job that the store holds. -/
theorem swap (change : StatusSwap) (ttl : Nat) (now : Int) :
    Confined pools K (s.swap pools change ttl now).2 := by
  by_cases hs : s.status? (pools.status change.job) = some change.expected
  · obtain ⟨_, e⟩ := s.swap_of_eq hs ttl now
    have hset := h.setStatus (h.of_status? hs) change.next ttl
    rw [e]
    dsimp only
    split
    · exact hset.retire _ _ _ now
    · exact hset
  · rw [s.swap_of_ne hs]
    exact h

end Small

/-- Only a push brings a job into the store. -/
theorem perform (h : Confined pools K s) {home : String → String} {c : StoreCall}
    (hc : c.Respects pools home) (hk : c.Brings K) (now : Int) :
    Confined pools K (s.perform now c).2 := by
  cases c with
  | push queue p job label ttl =>
    obtain ⟨rfl, -⟩ := hc
    exact h.push queue hk label ttl now
  | start p max ttl =>
    obtain rfl := hc
    exact h.start max ttl now
  | swap p change ttl =>
    obtain ⟨rfl, -⟩ := hc
    exact h.swap change ttl now
  | status name => exact h
  | pool p which => exact h

theorem apply (h : Confined pools K s) {home : String → String} {e : StoreEvent}
    (he : e.Respects pools home) (hk : e.Brings K) : Confined pools K (s.apply e) := by
  cases e with
  | call c now => exact h.perform he hk now
  | complete queue p job now => exact h.retire queue p job now
  | advance ms => exact h.advance ms

/-- After events that bring only jobs of `K`, the store is about those. -/
theorem run (home : String → String) {events : List StoreEvent}
    (he : ∀ e ∈ events, e.Respects pools home ∧ e.Brings K) (h : Confined pools K s) :
    Confined pools K (s.run events) := by
  induction events generalizing s with
  | nil => exact h
  | cons e events ih =>
    obtain ⟨⟨hr, hk⟩, hrest⟩ := List.forall_mem_cons.1 he
    exact ih hrest (h.apply hr hk)

end Confined

end InProcess

end BuildQueue
