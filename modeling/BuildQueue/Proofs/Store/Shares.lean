import BuildQueue.Proofs.Store.Equivalence
import BuildQueue.Proofs.Store.Writes

/-!
# What the store holds of some jobs

Two stores may hold the same of some queues and some jobs and differ in others (`SameOn`). A status
counts as long as it is live; whether an expired one is still there makes no difference. What is
done to both stores alike leaves them the same there, as long as it reads nothing else
(`SameOn.push`, `SameOn.retire`, `SameOn.swap`), and what is done to other queues and jobs changes
nothing there (`push_off`, `retire_off`, `swap_off`). Two stores may also hold the same of
everything (`Same`).
-/

namespace BuildQueue.InProcess

/-- A status and the time at which it expires, unless it has expired. -/
def live? (s : InProcess) (name : String) : Option (String × Nat) :=
  s.statuses[name]?.filter (s.clock < ·.2)

/-- The two stores hold the same of the queues in `Q` and the jobs in `J`, at the same time. -/
structure SameOn (pools : PoolKeys) (Q J : String → Prop) (s t : InProcess) : Prop where
  clock : s.clock = t.clock
  queue : ∀ q, Q q → s.queue q = t.queue q
  score : ∀ pool job, J job → s.score? pool job = t.score? pool job
  field : ∀ table job, J job → s.field? table job = t.field? table job
  live : ∀ name, (∀ job, name = pools.status job → J job) → s.live? name = t.live? name

variable {s t u : InProcess} {pools : PoolKeys} {Q J : String → Prop}

/-! ## Live statuses -/

theorem status?_eq_map_live? (s : InProcess) (name : String) :
    s.status? name = (s.live? name).map Prod.fst := by
  rw [status?_eq_bind, live?]
  cases s.statuses[name]? with
  | none => rfl
  | some entry =>
    by_cases h : entry.2 ≤ s.clock
    · simp [Option.filter_some, h, Nat.not_lt.2 h]
    · simp [Option.filter_some, h, Nat.lt_of_not_le h]

theorem live?_setStatus (s : InProcess) (name text : String) (ttl : Nat) (n : String) :
    (s.setStatus name text ttl).live? n =
      if n = name then (if ttl = 0 then none else some (text, s.clock + ttl)) else s.live? n := by
  rw [live?, statuses_setStatus]
  have hclock : (s.setStatus name text ttl).clock = s.clock := rfl
  rw [hclock]
  by_cases hn : n = name
  · by_cases ht : ttl = 0
    · simp [hn, ht]
    · simp [hn, ht, Nat.pos_of_ne_zero ht]
  · simp [hn, live?]

/-- Time takes live statuses away and leaves the others as they are. -/
theorem live?_advance (s : InProcess) (ms : Nat) (name : String) :
    (s.advance ms).live? name = (s.live? name).filter (s.clock + ms < ·.2) := by
  show s.statuses[name]?.filter (s.clock + ms < ·.2) = _
  rw [live?, Option.filter_filter]
  congr 1
  funext entry
  rw [Bool.eq_iff_iff, Bool.and_eq_true, decide_eq_true_iff, decide_eq_true_iff]
  omega

/-! ## The same on both sides -/

namespace SameOn

theorem refl (pools : PoolKeys) (Q J : String → Prop) (s : InProcess) : SameOn pools Q J s s :=
  ⟨rfl, fun _ _ => rfl, fun _ _ _ => rfl, fun _ _ _ => rfl, fun _ _ => rfl⟩

theorem symm (h : SameOn pools Q J s t) : SameOn pools Q J t s :=
  ⟨h.clock.symm, fun q hq => (h.queue q hq).symm, fun p j hj => (h.score p j hj).symm,
    fun n j hj => (h.field n j hj).symm, fun n hn => (h.live n hn).symm⟩

theorem trans (h : SameOn pools Q J s t) (h' : SameOn pools Q J t u) : SameOn pools Q J s u :=
  ⟨h.clock.trans h'.clock, fun q hq => (h.queue q hq).trans (h'.queue q hq),
    fun p j hj => (h.score p j hj).trans (h'.score p j hj),
    fun n j hj => (h.field n j hj).trans (h'.field n j hj),
    fun n hn => (h.live n hn).trans (h'.live n hn)⟩

section Small

variable (h : SameOn pools Q J s t)
include h

theorem status? {job : String} (hj : J job) :
    s.status? (pools.status job) = t.status? (pools.status job) := by
  rw [status?_eq_map_live?, status?_eq_map_live?, h.live]
  intro other e
  rwa [(status_inj pools).1 e.symm]

theorem setQueue (name : String) (jobs : List String) :
    SameOn pools Q J (s.setQueue name jobs) (t.setQueue name jobs) where
  clock := h.clock
  queue q hq := by rw [queue_setQueue, queue_setQueue, h.queue q hq]
  score := h.score
  field := h.field
  live := h.live

theorem join (pool job : String) (now : Int) :
    SameOn pools Q J (s.join pool job now) (t.join pool job now) where
  clock := h.clock
  queue := h.queue
  score p j hj := by rw [score?_join, score?_join, h.score p j hj]
  field := h.field
  live := h.live

theorem leave (pool job : String) :
    SameOn pools Q J (s.leave pool job) (t.leave pool job) where
  clock := h.clock
  queue := h.queue
  score p j hj := by rw [score?_leave, score?_leave, h.score p j hj]
  field := h.field
  live := h.live

theorem setField (table job text : String) :
    SameOn pools Q J (s.setField table job text) (t.setField table job text) where
  clock := h.clock
  queue := h.queue
  score := h.score
  field n j hj := by rw [field?_setField, field?_setField, h.field n j hj]
  live := h.live

theorem eraseField (table job : String) :
    SameOn pools Q J (s.eraseField table job) (t.eraseField table job) where
  clock := h.clock
  queue := h.queue
  score := h.score
  field n j hj := by rw [field?_eraseField, field?_eraseField, h.field n j hj]
  live := h.live

theorem setStatus (name text : String) (ttl : Nat) :
    SameOn pools Q J (s.setStatus name text ttl) (t.setStatus name text ttl) where
  clock := h.clock
  queue := h.queue
  score := h.score
  field := h.field
  live n hn := by rw [live?_setStatus, live?_setStatus, h.live n hn, h.clock]

theorem advance (ms : Nat) : SameOn pools Q J (s.advance ms) (t.advance ms) where
  clock := congrArg (· + ms) h.clock
  queue := h.queue
  score := h.score
  field := h.field
  live n hn := by rw [live?_advance, live?_advance, h.live n hn, h.clock]

theorem unlist (p : PoolKeys) (job : String) :
    SameOn pools Q J (s.unlist p job) (t.unlist p job) :=
  ((h.leave _ _).eraseField _ _).eraseField _ _

theorem foldl_unlist (p : PoolKeys) (jobs : List String) :
    SameOn pools Q J (jobs.foldl (·.unlist p ·) s) (jobs.foldl (·.unlist p ·) t) := by
  induction jobs generalizing s t with
  | nil => exact h
  | cons job jobs ih => exact ih (h.unlist p job)

end Small

end SameOn

/-! ## Elsewhere -/

section Off

variable (s)

theorem setQueue_off {name : String} (hq : ¬ Q name) (jobs : List String) :
    SameOn pools Q J s (s.setQueue name jobs) where
  clock := rfl
  queue q h := by
    have hne : q ≠ name := fun e => hq (e ▸ h)
    rw [queue_setQueue, if_neg hne]
  score _ _ _ := rfl
  field _ _ _ := rfl
  live _ _ := rfl

variable {job : String} (hj : ¬ J job)
include hj

theorem join_off (pool : String) (now : Int) : SameOn pools Q J s (s.join pool job now) where
  clock := rfl
  queue _ _ := rfl
  score p j h := by
    have hne : j ≠ job := fun e => hj (e ▸ h)
    rw [score?_join, if_neg fun hand => hne hand.2]
  field _ _ _ := rfl
  live _ _ := rfl

theorem leave_off (pool : String) : SameOn pools Q J s (s.leave pool job) where
  clock := rfl
  queue _ _ := rfl
  score p j h := by
    have hne : j ≠ job := fun e => hj (e ▸ h)
    rw [score?_leave, if_neg fun hand => hne hand.2]
  field _ _ _ := rfl
  live _ _ := rfl

theorem setField_off (table text : String) : SameOn pools Q J s (s.setField table job text) where
  clock := rfl
  queue _ _ := rfl
  score _ _ _ := rfl
  field n j h := by
    have hne : j ≠ job := fun e => hj (e ▸ h)
    rw [field?_setField, if_neg fun hand => hne hand.2]
  live _ _ := rfl

theorem eraseField_off (table : String) : SameOn pools Q J s (s.eraseField table job) where
  clock := rfl
  queue _ _ := rfl
  score _ _ _ := rfl
  field n j h := by
    have hne : j ≠ job := fun e => hj (e ▸ h)
    rw [field?_eraseField, if_neg fun hand => hne hand.2]
  live _ _ := rfl

theorem setStatus_off (text : String) (ttl : Nat) :
    SameOn pools Q J s (s.setStatus (pools.status job) text ttl) where
  clock := rfl
  queue _ _ := rfl
  score _ _ _ := rfl
  field _ _ _ := rfl
  live n h := by
    have hne : n ≠ pools.status job := fun e => hj (h job e)
    rw [live?_setStatus, if_neg hne]

theorem unlist_off (p : PoolKeys) : SameOn pools Q J s (s.unlist p job) :=
  ((leave_off s hj _).trans (eraseField_off _ hj _)).trans (eraseField_off _ hj _)

omit hj in
theorem foldl_unlist_off (p : PoolKeys) {jobs : List String} (hjobs : ∀ job ∈ jobs, ¬ J job) :
    SameOn pools Q J s (jobs.foldl (·.unlist p ·) s) := by
  induction jobs generalizing s with
  | nil => exact .refl _ _ _ s
  | cons job jobs ih =>
    exact (unlist_off s (hjobs job List.mem_cons_self) p).trans
      (ih _ fun j h => hjobs j (List.mem_cons_of_mem _ h))

end Off

/-! ## Operations -/

section Operations

variable {p : PoolKeys} {queue : String}

/-- The jobs of a queue in `Q` are in `J`. -/
def Inside (J : String → Prop) (s : InProcess) (queue : String) : Prop :=
  ∀ job ∈ s.queue queue, J job

namespace SameOn

variable (h : SameOn pools Q J s t) (hq : Q queue) (hin : s.Inside J queue)
include h hq hin

theorem promote (p : PoolKeys) (now : Int) :
    SameOn pools Q J (s.promote queue p now) (t.promote queue p now) := by
  unfold InProcess.promote
  rw [← h.queue queue hq]
  cases hhead : (s.queue queue).head? with
  | none => exact h
  | some head =>
    have hj := hin head (List.mem_of_head? hhead)
    dsimp only
    rw [h.score _ head hj, h.score _ head hj]
    split
    · exact h.join _ _ _
    · exact h

theorem retire (p : PoolKeys) {job : String} (hj : J job) (now : Int) :
    (s.retire queue p job now).1 = (t.retire queue p job now).1 ∧
      SameOn pools Q J (s.retire queue p job now).2 (t.retire queue p job now).2 := by
  refine ⟨congrArg Option.isSome (h.score p.active job hj), ?_⟩
  have hout := (h.leave p.active job).unlist p job
  have hrest := hout.setQueue queue ((s.queue queue).filter (· ≠ job))
  have hsame := hrest.promote hq (fun j hm => ?_) p now
  · unfold InProcess.retire
    dsimp only
    rw [queue_unlist, queue_unlist, queue_leave, queue_leave, ← h.queue queue hq]
    exact hsame
  · rw [queue_setQueue, if_pos rfl] at hm
    exact hin j (List.mem_filter.1 hm).1

theorem runningIn (p : PoolKeys) : s.runningIn queue p = t.runningIn queue p := by
  rw [InProcess.runningIn, InProcess.runningIn, ← h.queue queue hq]
  exact List.filter_congr fun j hj => by rw [h.score p.active j (hin j hj)]

theorem waitingIn (p : PoolKeys) : s.waitingIn queue p = t.waitingIn queue p := by
  rw [InProcess.waitingIn, InProcess.waitingIn, ← h.queue queue hq]
  exact List.filter_congr fun j hj => by rw [h.score p.active j (hin j hj)]

theorem enqueued (p : PoolKeys) (job label : String) (now : Int) :
    SameOn pools Q J (s.enqueued queue p job label now) (t.enqueued queue p job label now) := by
  have hrunning := h.runningIn hq hin p
  have hlisted := (((h.foldl_unlist p (s.waitingIn queue p)).setQueue queue
    (s.runningIn queue p ++ [job])).setField p.owners job queue).setField p.labels job label
  unfold InProcess.enqueued
  rw [← hrunning, ← h.waitingIn hq hin p]
  dsimp only
  split
  · exact hlisted.join _ _ _
  · exact hlisted

/-- A push reads its queue, the slots of the jobs in it, and the status of its job. -/
theorem push (p : PoolKeys) {job : String}
    (hs : s.status? (p.status job) = t.status? (p.status job)) (label : String) (ttl : Nat)
    (now : Int) :
    (s.push queue p job label ttl now).1 = (t.push queue p job label ttl now).1 ∧
      SameOn pools Q J (s.push queue p job label ttl now).2
        (t.push queue p job label ttl now).2 := by
  have hqueue := h.queue queue hq
  by_cases hm : job ∈ s.queue queue
  · have hm' : job ∈ t.queue queue := hqueue ▸ hm
    rw [s.push_of_mem p label ttl now hm, t.push_of_mem p label ttl now hm', hqueue]
    exact ⟨rfl, h⟩
  · have hm' : job ∉ t.queue queue := hqueue ▸ hm
    rw [s.push_of_not_mem p label ttl now hm, t.push_of_not_mem p label ttl now hm',
      h.runningIn hq hin, h.waitingIn hq hin, hs]
    exact ⟨rfl, (h.enqueued hq hin p job label now).setStatus _ _ _⟩

theorem swap (p : PoolKeys) {change : StatusSwap} (hj : J change.job) (hc : change.queue = queue)
    (hs : s.status? (p.status change.job) = t.status? (p.status change.job)) (ttl : Nat)
    (now : Int) :
    (s.swap p change ttl now).1 = (t.swap p change ttl now).1 ∧
      SameOn pools Q J (s.swap p change ttl now).2 (t.swap p change ttl now).2 := by
  have hset := h.setStatus (p.status change.job) change.next ttl
  unfold InProcess.swap
  dsimp only
  rw [hs, hc]
  split
  · exact ⟨rfl, h⟩
  · split
    · obtain ⟨hheld, hstore⟩ := hset.retire hq hin p hj now
      exact ⟨congrArg SwapReply.applied hheld, hstore⟩
    · exact ⟨rfl, hset⟩

end SameOn

section Off

variable (s) (hq : ¬ Q queue) (hout : s.Inside (¬ J ·) queue)
include hout

theorem promote_off (p : PoolKeys) (now : Int) : SameOn pools Q J s (s.promote queue p now) := by
  unfold promote
  cases hhead : (s.queue queue).head? with
  | none => exact .refl _ _ _ s
  | some head =>
    dsimp only
    split
    · exact join_off s (hout head (List.mem_of_head? hhead)) _ _
    · exact .refl _ _ _ s

include hq

theorem retire_off (p : PoolKeys) {job : String} (hj : ¬ J job) (now : Int) :
    SameOn pools Q J s (s.retire queue p job now).2 := by
  have hleft : SameOn pools Q J s ((s.leave p.active job).unlist p job) :=
    (leave_off s hj _).trans (unlist_off _ hj p)
  refine (hleft.trans (setQueue_off _ hq _)).trans (promote_off _ (fun j hm => ?_) p now)
  rw [queue_setQueue, if_pos rfl] at hm
  exact hout j (List.mem_filter.1 hm).1

theorem enqueued_off (p : PoolKeys) {job : String} (hj : ¬ J job) (label : String) (now : Int) :
    SameOn pools Q J s (s.enqueued queue p job label now) := by
  have hwaiting : ∀ j ∈ s.waitingIn queue p, ¬ J j := fun j hm =>
    hout j (List.mem_filter.1 hm).1
  have hevicted : SameOn pools Q J s ((s.waitingIn queue p).foldl (·.unlist p ·) s) :=
    foldl_unlist_off s p hwaiting
  have hlisted := ((hevicted.trans (setQueue_off _ hq (s.runningIn queue p ++ [job]))).trans
    (setField_off _ hj p.owners queue)).trans (setField_off _ hj p.labels label)
  unfold enqueued
  dsimp only
  split
  · exact hlisted.trans (join_off _ hj _ _)
  · exact hlisted

theorem push_off {job : String} (hj : ¬ J job) (label : String) (ttl : Nat) (now : Int) :
    SameOn pools Q J s (s.push queue pools job label ttl now).2 := by
  by_cases hm : job ∈ s.queue queue
  · rw [s.push_of_mem _ _ _ _ hm]
    exact .refl _ _ _ s
  · rw [s.push_of_not_mem _ _ _ _ hm]
    exact (enqueued_off s hq hout pools hj label now).trans (setStatus_off _ hj _ _)

theorem swap_off {change : StatusSwap} (hj : ¬ J change.job) (hc : change.queue = queue)
    (ttl : Nat) (now : Int) : SameOn pools Q J s (s.swap pools change ttl now).2 := by
  have hset : SameOn pools Q J s (s.setStatus (pools.status change.job) change.next ttl) :=
    setStatus_off s hj _ _
  unfold swap
  dsimp only
  split
  · exact .refl _ _ _ s
  · split
    · rw [hc]
      exact hset.trans
        (retire_off (s.setStatus (pools.status change.job) change.next ttl) hq hout pools hj now)
    · exact hset

end Off

end Operations

/-! ## Everything -/

/-- The two stores hold the same, at the same time. -/
structure Same (s t : InProcess) : Prop where
  clock : s.clock = t.clock
  queue : ∀ q, s.queue q = t.queue q
  score : ∀ pool job, s.score? pool job = t.score? pool job
  field : ∀ table job, s.field? table job = t.field? table job
  live : ∀ name, s.live? name = t.live? name

/-- Stores that hold the same of some queues and jobs and of all others hold the same. -/
theorem SameOn.same (h : SameOn pools Q J s t) (h' : SameOn pools (¬ Q ·) (¬ J ·) s t) :
    Same s t where
  clock := h.clock
  queue q := by
    by_cases hq : Q q
    · exact h.queue q hq
    · exact h'.queue q hq
  score pool job := by
    by_cases hj : J job
    · exact h.score pool job hj
    · exact h'.score pool job hj
  field table job := by
    by_cases hj : J job
    · exact h.field table job hj
    · exact h'.field table job hj
  live name := by
    by_cases hn : ∃ job, name = pools.status job ∧ ¬ J job
    · obtain ⟨job, rfl, hj⟩ := hn
      exact h'.live _ fun other e => (status_inj pools).1 e ▸ hj
    · exact h.live name fun job e => by_contra fun hj => hn ⟨job, e, hj⟩

namespace Same

theorem refl (s : InProcess) : Same s s := ⟨rfl, fun _ => rfl, fun _ _ => rfl, fun _ _ => rfl,
  fun _ => rfl⟩

theorem symm (h : Same s t) : Same t s :=
  ⟨h.clock.symm, fun q => (h.queue q).symm, fun p j => (h.score p j).symm,
    fun n j => (h.field n j).symm, fun n => (h.live n).symm⟩

theorem trans (h : Same s t) (h' : Same t u) : Same s u :=
  ⟨h.clock.trans h'.clock, fun q => (h.queue q).trans (h'.queue q),
    fun p j => (h.score p j).trans (h'.score p j), fun n j => (h.field n j).trans (h'.field n j),
    fun n => (h.live n).trans (h'.live n)⟩

variable (h : Same s t)
include h

theorem everywhere (pools : PoolKeys) : SameOn pools (fun _ => True) (fun _ => True) s t :=
  ⟨h.clock, fun q _ => h.queue q, fun p j _ => h.score p j, fun n j _ => h.field n j,
    fun n _ => h.live n⟩

theorem status? (name : String) : s.status? name = t.status? name := by
  rw [status?_eq_map_live?, status?_eq_map_live?, h.live]

theorem members (pool : String) : s.members pool = t.members pool := by
  have hequiv : (s.poolMap pool).Equiv (t.poolMap pool) :=
    Std.TreeMap.Equiv.of_forall_constGet?_eq fun job => h.score pool job
  rw [InProcess.members, InProcess.members, hequiv.toList_eq]

theorem entries (pools : PoolKeys) (which : Pool) :
    s.entries pools which = t.entries pools which := by
  unfold InProcess.entries
  cases which <;> simp only [h.members, h.field]

end Same

theorem inside_everything (s : InProcess) (queue : String) : s.Inside (fun _ => True) queue :=
  fun _ _ => trivial

/-- Stores that hold the same of everything there is hold the same. -/
theorem same_of_on (pools : PoolKeys)
    (h : SameOn pools (fun _ => True) (fun _ => True) s t) : Same s t :=
  ⟨h.clock, fun q => h.queue q trivial, fun p j => h.score p j trivial,
    fun n j => h.field n j trivial, fun n => h.live n fun _ _ => trivial⟩

namespace Same

variable (h : Same s t)
include h

theorem retire (queue : String) (p : PoolKeys) (job : String) (now : Int) :
    (s.retire queue p job now).1 = (t.retire queue p job now).1 ∧
      Same (s.retire queue p job now).2 (t.retire queue p job now).2 :=
  ((h.everywhere p).retire trivial (s.inside_everything queue) p trivial now).imp_right
    (same_of_on p)

theorem runningIn (queue : String) (p : PoolKeys) : s.runningIn queue p = t.runningIn queue p :=
  (h.everywhere p).runningIn trivial (s.inside_everything queue) p

theorem waitingIn (queue : String) (p : PoolKeys) : s.waitingIn queue p = t.waitingIn queue p :=
  (h.everywhere p).waitingIn trivial (s.inside_everything queue) p

theorem enqueued (queue : String) (p : PoolKeys) (job label : String) (now : Int) :
    Same (s.enqueued queue p job label now) (t.enqueued queue p job label now) :=
  same_of_on p ((h.everywhere p).enqueued trivial (s.inside_everything queue) p job label now)

theorem leave (pool job : String) : Same (s.leave pool job) (t.leave pool job) :=
  same_of_on ⟨"", "", "", "", ""⟩ ((h.everywhere _).leave pool job)

theorem setStatus (name text : String) (ttl : Nat) :
    Same (s.setStatus name text ttl) (t.setStatus name text ttl) :=
  same_of_on ⟨"", "", "", "", ""⟩ ((h.everywhere _).setStatus name text ttl)

theorem admitted (pools : PoolKeys) (job : String) (ttl : Nat) (now : Int) :
    Same (s.admitted pools job ttl now) (t.admitted pools job ttl now) :=
  same_of_on pools ((((h.everywhere _).leave _ _).join _ _ _).setStatus _ _ _)

theorem advance (ms : Nat) : Same (s.advance ms) (t.advance ms) :=
  same_of_on ⟨"", "", "", "", ""⟩ ((h.everywhere _).advance ms)

end Same

end BuildQueue.InProcess
