import BuildQueue.Proofs.Store.Structure
import BuildQueue.Proofs.Text.Number

/-!
# What a store holds

However the store is used, its queues hold jobs with names, each once, and not many of them; and the
times in its pools are those of its callers. The number of jobs is bounded because only a job with a
slot stays in a queue when another one is pushed, and slots are given out up to a limit. This needs
no job to keep to one queue.
-/

namespace BuildQueue

/-- The pools of slots are known, and the ready pool is none of them. -/
structure PoolKeys.Apart (pools : PoolKeys) (slots : String → Prop) : Prop extends
    pools.Distinct where
  active : slots pools.active
  ready : ¬ slots pools.ready

def StoreCall.Ordinary (slots : String → Prop) : StoreCall → Prop
  | .push _ pools job _ _ => pools.Apart slots ∧ job ≠ ""
  | .start pools max _ => pools.Apart slots ∧ max ≤ wholeBound
  | .swap pools _ _ => pools.Apart slots
  | .status _ => True
  | .pool _ _ => True

/-- A pushed job has a name, and times and limits are numbers of 53 bits. -/
def StoreEvent.Ordinary (slots : String → Prop) : StoreEvent → Prop
  | .call c now => c.Ordinary slots ∧ now.natAbs ≤ wholeBound
  | .complete _ pools _ now => pools.Apart slots ∧ now.natAbs ≤ wholeBound
  | .advance _ => True

namespace InProcess

/-- From `s` to `t`, jobs have left queues only, and have joined pools of `joined` only, at
`now`. -/
structure Moves (s t : InProcess) (now : Int) (joined : List String) : Prop where
  queue : ∀ q, (t.queue q).Sublist (s.queue q)
  score : ∀ pool job since, t.score? pool job = some since →
    s.score? pool job = some since ∨ (since = now ∧ pool ∈ joined)

namespace Moves

variable {s t u : InProcess} {now : Int} {joined : List String}

theorem refl (s : InProcess) (now : Int) (joined : List String) : s.Moves s now joined :=
  ⟨fun _ => List.Sublist.refl _, fun _ _ _ => .inl⟩

theorem trans (h : s.Moves t now joined) (h' : t.Moves u now joined) : s.Moves u now joined where
  queue q := (h'.queue q).trans (h.queue q)
  score pool job since hu := by
    rcases h'.score pool job since hu with ht | hn
    · exact h.score pool job since ht
    · exact .inr hn

theorem inPool (h : s.Moves t now joined) {pool job : String} (hp : pool ∉ joined)
    (hj : t.InPool pool job) : s.InPool pool job := by
  obtain ⟨since, hs⟩ := Option.isSome_iff_exists.1 hj
  rcases h.score pool job since hs with h | ⟨-, h⟩
  · exact Option.isSome_iff_exists.2 ⟨since, h⟩
  · exact absurd h hp

theorem leave (s : InProcess) (pool job : String) (now : Int) (joined : List String) :
    s.Moves (s.leave pool job) now joined where
  queue _ := List.Sublist.refl _
  score p j since h := by
    rw [score?_leave] at h
    split at h
    · cases h
    · exact .inl h

theorem join (s : InProcess) {pool : String} (job : String) (now : Int) (hp : pool ∈ joined) :
    s.Moves (s.join pool job now) now joined where
  queue _ := List.Sublist.refl _
  score p j since h := by
    rw [score?_join] at h
    split at h
    · next hpj => exact .inr ⟨(Option.some.inj h).symm, hpj.1 ▸ hp⟩
    · exact .inl h

theorem promote (s : InProcess) (queue : String) {pools : PoolKeys} (now : Int)
    (hp : pools.ready ∈ joined) : s.Moves (s.promote queue pools now) now joined := by
  unfold InProcess.promote
  split
  · exact refl s now joined
  · split
    · exact join s _ now hp
    · exact refl s now joined

theorem retire (s : InProcess) (queue : String) {pools : PoolKeys} (job : String) (now : Int)
    (hp : pools.ready ∈ joined) : s.Moves (s.retire queue pools job now).2 now joined := by
  have hout : s.Moves ((s.leave pools.active job).leave pools.ready job) now joined :=
    (leave s _ _ _ _).trans (leave _ _ _ _ _)
  refine Moves.trans (t := (((s.leave pools.active job).unlist pools job).setQueue queue
    ((s.queue queue).filter (· ≠ job)))) ⟨fun q => ?_, hout.score⟩ (promote _ _ _ hp)
  rw [queue_setQueue]
  split
  · next hq => exact hq ▸ List.filter_sublist
  · exact List.Sublist.refl _

theorem admitReady {pools : PoolKeys} (hr : pools.ready ∈ joined) (ha : pools.active ∈ joined)
    (ttl : Nat) (jobs : List String) (s : InProcess) (capacity : Nat) (busy : List String) :
    s.Moves (InProcess.admitReady pools ttl now s capacity busy jobs).2 now joined := by
  induction jobs generalizing s capacity busy with
  | nil => exact refl s now joined
  | cons job rest ih =>
    cases capacity with
    | zero => exact refl s now joined
    | succ room =>
      rw [InProcess.admitReady]
      split
      · split
        · exact (retire s _ job now hr).trans (ih _ _ _)
        · exact (leave s pools.ready job now joined).trans (ih _ _ _)
      · split
        · exact ih s _ _
        · have hin : s.Moves (s.admitted pools job ttl now) now joined := by
            have h := (leave s pools.ready job now joined).trans (join _ job now ha)
            exact ⟨h.queue, h.score⟩
          exact hin.trans (ih _ _ _)

theorem swap (s : InProcess) {pools : PoolKeys} (change : StatusSwap) (ttl : Nat) (now : Int)
    (hp : pools.ready ∈ joined) : s.Moves (s.swap pools change ttl now).2 now joined := by
  by_cases hs : s.status? (pools.status change.job) = some change.expected
  · obtain ⟨held, e⟩ := s.swap_of_eq hs ttl now
    rw [e]
    dsimp only
    split
    · have hm := retire (s.setStatus (pools.status change.job) change.next ttl) change.queue
        change.job now hp
      exact ⟨hm.queue, hm.score⟩
    · exact ⟨fun _ => List.Sublist.refl _, fun _ _ _ => .inl⟩
  · rw [s.swap_of_ne hs]
    exact refl s now joined

end Moves

theorem score?_foldl_unlist (s : InProcess) (pools : PoolKeys) (jobs : List String)
    {pool j : String} {since : Int}
    (h : (jobs.foldl (·.unlist pools ·) s).score? pool j = some since) :
    s.score? pool j = some since := by
  induction jobs generalizing s with
  | nil => exact h
  | cons job jobs ih =>
    have hu : (s.leave pools.ready job).score? pool j = some since := ih (s.unlist pools job) h
    rw [score?_leave] at hu
    split at hu
    · cases hu
    · exact hu

/-- A push lets the pushed job into the ready pool at most. -/
theorem score?_push (s : InProcess) {queue : String} (pools : PoolKeys) {job : String}
    (label : String) (ttl : Nat) (now : Int) (hj : job ∉ s.queue queue) (pool j : String)
    (since : Int) (h : (s.push queue pools job label ttl now).2.score? pool j = some since) :
    s.score? pool j = some since ∨ (since = now ∧ pool = pools.ready) := by
  rw [s.push_of_not_mem _ _ _ _ hj, score?_setStatus] at h
  unfold enqueued at h
  split at h
  · rw [score?_join] at h
    split at h
    · next hp => exact .inr ⟨(Option.some.inj h).symm, hp.1⟩
    · exact .inl (s.score?_foldl_unlist pools _ h)
  · exact .inl (s.score?_foldl_unlist pools _ h)

/-- Jobs have names, stand in a queue once, and are not too many; times are not too large. -/
structure Bounded (s : InProcess) (slots : String → Prop) : Prop where
  named : ∀ q, "" ∉ s.queue q
  nodup : ∀ q, (s.queue q).Nodup
  length_le : ∀ q, (s.queue q).length ≤ wholeBound + 1
  since : ∀ pool job since, s.score? pool job = some since → since.natAbs ≤ wholeBound
  slots : ∀ pool, slots pool → (s.members pool).length ≤ wholeBound

namespace Bounded

variable {s t : InProcess} {slots : String → Prop} {now : Int}

theorem empty (slots : String → Prop) : ({} : InProcess).Bounded slots := by
  constructor <;> simp [InProcess.queue, score?, poolMap, members_empty]

/-- Moves keep the bounds if each pool of slots keeps its own. -/
theorem move {joined : List String} (h : s.Bounded slots) (hm : s.Moves t now joined)
    (hn : now.natAbs ≤ wholeBound)
    (hj : ∀ pool ∈ joined, slots pool → (t.members pool).length ≤ wholeBound) :
    t.Bounded slots where
  named q hq := h.named q ((hm.queue q).mem hq)
  nodup q := (hm.queue q).nodup (h.nodup q)
  length_le q := Nat.le_trans (hm.queue q).length_le (h.length_le q)
  since pool job since hs := by
    rcases hm.score pool job since hs with hs | ⟨rfl, -⟩
    · exact h.since pool job since hs
    · exact hn
  slots pool hp := by
    by_cases hin : pool ∈ joined
    · exact hj pool hin hp
    · exact Nat.le_trans (length_members_le fun job => hm.inPool hin) (h.slots pool hp)

variable {pools : PoolKeys}

theorem ready (hp : pools.Apart slots) (t : InProcess) :
    ∀ pool ∈ [pools.ready], slots pool → (t.members pool).length ≤ wholeBound := by
  rintro pool hpool hs
  rw [List.mem_singleton.1 hpool] at hs
  exact absurd hs hp.ready

theorem retire (h : s.Bounded slots) (hp : pools.Apart slots) (queue job : String)
    (hn : now.natAbs ≤ wholeBound) : (s.retire queue pools job now).2.Bounded slots :=
  h.move (Moves.retire s queue job now List.mem_cons_self) hn (ready hp _)

theorem swap (h : s.Bounded slots) (hp : pools.Apart slots) (change : StatusSwap) (ttl : Nat)
    (hn : now.natAbs ≤ wholeBound) : (s.swap pools change ttl now).2.Bounded slots :=
  h.move (Moves.swap s change ttl now List.mem_cons_self) hn (ready hp _)

theorem start (h : s.Bounded slots) (hp : pools.Apart slots) {limit : Nat}
    (hl : limit ≤ wholeBound) (ttl : Nat) (hn : now.natAbs ≤ wholeBound) :
    (s.start pools limit ttl now).2.Bounded slots := by
  have hm : s.Moves (s.start pools limit ttl now).2 now [pools.ready, pools.active] :=
    Moves.admitReady (by simp) (by simp) ttl _ s _ _
  refine h.move hm hn fun pool hpool hs => ?_
  rcases List.mem_cons.1 hpool with rfl | ha
  · exact absurd hs hp.ready
  · rw [List.mem_singleton.1 ha]
    exact Nat.le_trans (length_active_start hp.toDistinct s limit)
      (Nat.max_le.2 ⟨h.slots pools.active hp.active, hl⟩)

/-- The jobs of a queue that stay when another one is pushed hold slots. -/
theorem length_runningIn_le (h : s.Bounded slots) (hp : pools.Apart slots) (queue : String) :
    (s.runningIn queue pools).length ≤ wholeBound :=
  Nat.le_trans
    (s.length_le_members ((h.nodup queue).filter _) fun _ hj => (List.mem_filter.1 hj).2)
    (h.slots pools.active hp.active)

theorem size_push_le (h : s.Bounded slots) (hp : pools.Apart slots) (queue job label : String)
    (ttl : Nat) (now : Int) :
    (s.push queue pools job label ttl now).1.size ≤ wholeBound + 1 := by
  by_cases hq : job ∈ s.queue queue
  · rw [s.push_of_mem _ _ _ _ hq]
    exact h.length_le queue
  · rw [s.push_of_not_mem _ _ _ _ hq]
    exact Nat.succ_le_succ (h.length_runningIn_le hp queue)

theorem push (h : s.Bounded slots) (hp : pools.Apart slots) {queue job : String}
    (hj : job ≠ "") (label : String) (ttl : Nat) (hn : now.natAbs ≤ wholeBound) :
    (s.push queue pools job label ttl now).2.Bounded slots := by
  by_cases hq : job ∈ s.queue queue
  · rw [s.push_of_mem _ _ _ _ hq]
    exact h
  have hs := s.score?_push pools label ttl now hq
  have hqueue := s.queue_push pools label ttl now hq
  have hsub : (s.runningIn queue pools).Sublist (s.queue queue) := List.filter_sublist
  have hnot : job ∉ s.runningIn queue pools := fun hm => hq (hsub.mem hm)
  constructor
  · intro q hempty
    rw [hqueue] at hempty
    split at hempty
    · rcases List.mem_append.1 hempty with hr | hr
      · exact h.named queue (hsub.mem hr)
      · exact hj (List.mem_singleton.1 hr).symm
    · exact h.named q hempty
  · intro q
    rw [hqueue]
    split
    · exact List.nodup_append.2 ⟨hsub.nodup (h.nodup queue), List.pairwise_singleton _ job,
        fun a ha b hb e => hnot (List.mem_singleton.1 hb ▸ e ▸ ha)⟩
    · exact h.nodup q
  · intro q
    rw [hqueue]
    split
    · rw [List.length_append, List.length_singleton]
      exact Nat.succ_le_succ (h.length_runningIn_le hp queue)
    · exact h.length_le q
  · intro pool j since hsince
    rcases hs pool j since hsince with ho | ⟨rfl, -⟩
    · exact h.since pool j since ho
    · exact hn
  · intro pool hslots
    refine Nat.le_trans (length_members_le fun j hin => ?_) (h.slots pool hslots)
    obtain ⟨since, hsince⟩ := Option.isSome_iff_exists.1 hin
    rcases hs pool j since hsince with ho | ⟨-, rfl⟩
    · exact Option.isSome_iff_exists.2 ⟨since, ho⟩
    · exact absurd hslots hp.ready

theorem apply (h : s.Bounded slots) {e : StoreEvent} (he : e.Ordinary slots) :
    (s.apply e).Bounded slots := by
  cases e with
  | call c now =>
    obtain ⟨hc, hn⟩ := he
    cases c with
    | push queue pools job label ttl => exact h.push hc.1 hc.2 label ttl hn
    | start pools limit ttl => exact h.start hc.1 hc.2 ttl hn
    | swap pools change ttl => exact h.swap hc change ttl hn
    | status name => exact h
    | pool pools which => exact h
  | complete queue pools job now => exact h.retire he.1 queue job he.2
  | advance ms => exact ⟨h.named, h.nodup, h.length_le, h.since, h.slots⟩

end Bounded

end InProcess

end BuildQueue
