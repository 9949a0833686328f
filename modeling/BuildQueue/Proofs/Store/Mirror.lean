import BuildQueue.Proofs.Store.Commands
import BuildQueue.Proofs.Store.View
import BuildQueue.Store.Script

/-!
# Scripts and operations

A database mirrors a store in memory if both answer every question alike (`Mirrors`). Each script
keeps it so and answers what the operation of the same name answers, with the empty text where that
one answers that there is nothing.
-/

namespace BuildQueue

/-- The texts in which a script answers a push. -/
def PushReply.texts (r : PushReply) : List String :=
  [toString r.size, r.cancelled.getD "", r.aborted.getD "", if r.duplicate then "1" else "0",
    r.previous.getD ""]

/-- The texts in which a script answers a swap. -/
def SwapReply.texts : SwapReply → List String
  | .applied wasActive => ["1", if wasActive then "1" else "0"]
  | .rejected current => ["0", current.getD ""]

theorem InProcess.foldl_unlist_setQueue (pools : PoolKeys) (jobs : List String) (s : InProcess)
    (q : String) (items : List String) :
    jobs.foldl (·.unlist pools ·) (s.setQueue q items) =
      (jobs.foldl (·.unlist pools ·) s).setQueue q items := by
  induction jobs generalizing s with
  | nil => rfl
  | cons job jobs ih => exact ih (s.unlist pools job)

/-- What is not waiting in a queue is running in it. -/
theorem InProcess.filter_not_mem_waitingIn (s : InProcess) (queue : String) (pools : PoolKeys) :
    (s.queue queue).filter (· ∉ s.waitingIn queue pools) = s.runningIn queue pools := by
  refine List.filter_congr fun e he => ?_
  have hw : e ∈ s.waitingIn queue pools ↔ (!(s.score? pools.active e).isSome) = true := by
    rw [waitingIn, List.mem_filter, and_iff_right he]
  cases hs : (s.score? pools.active e).isSome <;> simp [hw, hs]

/-- A queue of jobs with a name has a last running one unless it has none at all. -/
theorem InProcess.getLast?_runningIn {s : InProcess} {queue : String} (pools : PoolKeys)
    (h : "" ∉ s.queue queue) :
    (s.runningIn queue pools).getLast?.getD "" = "" ↔ s.runningIn queue pools = [] := by
  cases hl : (s.runningIn queue pools).getLast? with
  | none => simp [List.getLast?_eq_none_iff.1 hl]
  | some last =>
    have hmem := List.mem_of_getLast? hl
    have hne : last ≠ "" := fun e => h (e ▸ (List.mem_filter.1 hmem).1)
    simp [hne, List.ne_nil_of_mem hmem]

/-- The database and the store hold the same queues, pools, tables and statuses. -/
structure Mirrors (d : Database) (s : InProcess) : Prop where
  queue : ∀ q, d.lrange q = s.queue q
  score : ∀ pool job, d.zscore pool job = s.score? pool job
  field : ∀ table job, d.hget table job = s.field? table job
  text : ∀ name : String, d.texts[name]? = s.statuses[name]?
  clock : d.clock = s.clock

namespace Mirrors

variable {d : Database} {s t : InProcess}

theorem empty : Mirrors {} {} := by
  constructor <;> intros <;>
    simp [Database.lrange, InProcess.queue, Database.zscore, Database.sortedSet, InProcess.score?,
      InProcess.poolMap, Database.hget, Database.hash, InProcess.field?, InProcess.table]

/-- Nothing counts but what can be asked. -/
theorem congr (h : Mirrors d s) (hq : ∀ q, t.queue q = s.queue q)
    (hp : t.pools = s.pools) (hf : t.tables = s.tables)
    (hs : t.statuses = s.statuses) (hc : t.clock = s.clock) : Mirrors d t where
  queue q := (h.queue q).trans (hq q).symm
  score pool job := by rw [h.score, InProcess.score?, InProcess.score?, InProcess.poolMap,
    InProcess.poolMap, hp]
  field table job := by rw [h.field, InProcess.field?, InProcess.field?, InProcess.table,
    InProcess.table, hf]
  text name := by rw [h.text, hs]
  clock := h.clock.trans hc.symm

/-! ## Questions -/

theorem get (h : Mirrors d s) (name : String) : d.get name = s.status? name := by
  cases hs : s.statuses[name]? <;> simp [Database.get, InProcess.status?, h.text, h.clock, hs]

theorem lindex (h : Mirrors d s) (q : String) : d.lindex q = (s.queue q).head? := by
  rw [Database.lindex, h.queue]

theorem sortedSet_equiv (h : Mirrors d s) (pool : String) :
    (d.sortedSet pool).Equiv (s.poolMap pool) :=
  Std.TreeMap.Equiv.of_forall_constGet?_eq fun job => h.score pool job

theorem zrange (h : Mirrors d s) (pool : String) : d.zrange pool = s.members pool := by
  rw [Database.zrange, InProcess.members, (h.sortedSet_equiv pool).toList_eq]
  rfl

theorem zcard (h : Mirrors d s) (pool : String) : d.zcard pool = (s.members pool).length := by
  rw [Database.zcard, (h.sortedSet_equiv pool).size_eq, InProcess.members, List.length_mergeSort,
    Std.TreeMap.length_toList]

/-! ## Small changes -/

theorem leave (h : Mirrors d s) (pool job : String) :
    Mirrors (d.zrem pool job).2 (s.leave pool job) where
  queue := h.queue
  score p j := by rw [Database.zscore_zrem, InProcess.score?_leave, h.score]
  field := h.field
  text := h.text
  clock := h.clock

theorem join (h : Mirrors d s) (pool job : String) (now : Int) :
    Mirrors (d.zadd pool job now) (s.join pool job now) where
  queue := h.queue
  score p j := by rw [Database.zscore_zadd, InProcess.score?_join, h.score]
  field := h.field
  text := h.text
  clock := h.clock

theorem setField (h : Mirrors d s) (table job text : String) :
    Mirrors (d.hset table job text) (s.setField table job text) where
  queue := h.queue
  score := h.score
  field t j := by rw [Database.hget_hset, InProcess.field?_setField, h.field]
  text := h.text
  clock := h.clock

theorem eraseField (h : Mirrors d s) (table job : String) :
    Mirrors (d.hdel table job) (s.eraseField table job) where
  queue := h.queue
  score := h.score
  field t j := by rw [Database.hget_hdel, InProcess.field?_eraseField, h.field]
  text := h.text
  clock := h.clock

theorem rpush (h : Mirrors d s) (q job : String) :
    Mirrors (d.rpush q job) (s.setQueue q (s.queue q ++ [job])) where
  queue q' := by rw [Database.lrange_rpush, InProcess.queue_setQueue, h.queue, h.queue]
  score := h.score
  field := h.field
  text := h.text
  clock := h.clock

theorem lrem (h : Mirrors d s) (q job : String) :
    Mirrors (d.lrem q job) (s.setQueue q ((s.queue q).filter (· ≠ job))) where
  queue q' := by rw [Database.lrange_lrem, InProcess.queue_setQueue, h.queue, h.queue]
  score := h.score
  field := h.field
  text := h.text
  clock := h.clock

theorem setStatus (h : Mirrors d s) (name text : String) (seconds : Nat) :
    Mirrors (d.setEx name text seconds) (s.setStatus name text (seconds * 1000)) where
  queue := h.queue
  score := h.score
  field := h.field
  text n := by
    simp only [Database.setEx, InProcess.setStatus, Std.TreeMap.getElem?_insert, h.text, h.clock]
  clock := h.clock

theorem advance (h : Mirrors d s) (ms : Nat) : Mirrors (d.advance ms) (s.advance ms) :=
  ⟨h.queue, h.score, h.field, h.text, congrArg (· + ms) h.clock⟩

/-! ## Taking a job out -/

theorem zrem_fst (h : Mirrors d s) (pool job : String) :
    (d.zrem pool job).1 = (s.score? pool job).isSome.toNat := by
  rw [Database.zrem, h.score]
  cases (s.score? pool job).isSome <;> rfl

theorem promote (h : Mirrors d s) (queue : String) (pools : PoolKeys) (now : Int) :
    Mirrors (match d.lindex queue with
      | none => d
      | some head =>
        if (d.zscore pools.active head).isNone && (d.zscore pools.ready head).isNone then
          d.zadd pools.ready head now
        else d) (s.promote queue pools now) := by
  unfold InProcess.promote
  rw [h.lindex]
  cases (s.queue queue).head? with
  | none => exact h
  | some head =>
    dsimp only
    rw [h.score, h.score]
    split
    · exact h.join _ _ _
    · exact h

theorem retire (h : Mirrors d s) (queue : String) (pools : PoolKeys) (job : String) (now : Int) :
    (Script.retire queue pools job now d).1 = (s.retire queue pools job now).1.toNat ∧
      Mirrors (Script.retire queue pools job now d).2 (s.retire queue pools job now).2 := by
  have hout := ((((h.leave pools.active job).leave pools.ready job).lrem queue job).eraseField
    pools.owners job).eraseField pools.labels job
  have hp := hout.promote queue pools now
  have hfound := h.zrem_fst pools.active job
  unfold Script.retire
  dsimp only
  split
  · next hn =>
    rw [hn] at hp
    exact ⟨hfound, hp⟩
  · next head hh =>
    rw [hh] at hp
    dsimp only at hp
    split
    · next hc =>
      rw [if_pos hc] at hp
      exact ⟨hfound, hp⟩
    · next hc =>
      rw [if_neg hc] at hp
      exact ⟨hfound, hp⟩

/-! ## A push -/

/-- The jobs of `entries` that hold no slot are put out one by one, and the last one of each kind is
reported. -/
theorem displace {pools : PoolKeys} (hp : pools.ready ≠ pools.active) (queue : String)
    (entries : List String) (found : Script.Displaced) {holds : String → Bool} (h : Mirrors d s)
    (hs : ∀ e, (s.score? pools.active e).isSome = holds e) :
    (Script.displace queue pools entries found d).1 =
        ⟨((entries.filter (!holds ·)).getLast?).getD found.cancelled,
          ((entries.filter holds).getLast?).getD found.aborted⟩ ∧
      Mirrors (Script.displace queue pools entries found d).2
        (((entries.filter (!holds ·)).foldl (·.unlist pools ·) s).setQueue queue
          ((s.queue queue).filter (· ∉ entries.filter (!holds ·)))) := by
  induction entries generalizing d s found with
  | nil =>
    refine ⟨rfl, h.congr (fun q => ?_) rfl rfl rfl rfl⟩
    by_cases hq : q = queue <;> simp [hq]
  | cons entry rest ih =>
    rw [Script.displace, h.score, hs]
    cases he : holds entry with
    | true =>
      obtain ⟨hf, hm⟩ := ih { found with aborted := entry } h hs
      simp only [he, Bool.not_true, Bool.false_eq_true, not_false_eq_true, List.filter_cons_of_neg,
        List.filter_cons_of_pos, List.getLast?_cons, Option.getD_some, if_true]
      exact ⟨hf, hm⟩
    | false =>
      have hout : Mirrors _
          ((s.unlist pools entry).setQueue queue ((s.queue queue).filter (· ≠ entry))) :=
        (((h.lrem queue entry).leave pools.ready entry).eraseField pools.owners entry).eraseField
          pools.labels entry
      obtain ⟨hf, hm⟩ := ih { found with cancelled := entry } hout fun e => by
        simpa [InProcess.unlist, hp.symm] using hs e
      rw [InProcess.foldl_unlist_setQueue] at hm
      simp only [he, Bool.not_false, Bool.false_eq_true, not_false_eq_true, List.filter_cons_of_neg,
        List.filter_cons_of_pos, List.getLast?_cons, Option.getD_some, if_false, List.foldl_cons]
      refine ⟨hf, hm.congr (fun q => ?_) rfl rfl rfl rfl⟩
      by_cases hq : q = queue
      · simp [hq, List.filter_filter, Bool.and_comm]
      · simp [hq]

/-- The job joins the queue from which the waiting jobs have been put out. -/
theorem enqueued {queue : String} {pools : PoolKeys} (hne : "" ∉ s.queue queue) {out : Database}
    (h : Mirrors out (((s.waitingIn queue pools).foldl (·.unlist pools ·) s).setQueue queue
      (s.runningIn queue pools))) (job label : String) (now : Int) :
    Mirrors
      (if (s.runningIn queue pools).getLast?.getD "" = "" then
        (((out.rpush queue job).hset pools.owners job queue).hset pools.labels job label).zadd
          pools.ready job now
      else ((out.rpush queue job).hset pools.owners job queue).hset pools.labels job label)
      (s.enqueued queue pools job label now) := by
  have hin := ((h.rpush queue job).setField pools.owners job queue).setField pools.labels job label
  have hq : ∀ q, (s.enqueued queue pools job label now).queue q =
      if q = queue then s.runningIn queue pools ++ [job]
      else ((s.waitingIn queue pools).foldl (·.unlist pools ·) s).queue q := by
    intro q
    unfold InProcess.enqueued
    split <;> simp
  unfold InProcess.enqueued at hq ⊢
  by_cases hr : s.runningIn queue pools = []
  · rw [if_pos ((InProcess.getLast?_runningIn pools hne).2 hr)]
    simp only [if_pos hr] at hq ⊢
    refine (hin.join pools.ready job now).congr (fun q => ?_) rfl rfl rfl rfl
    by_cases hqq : q = queue <;> simp [hq, hqq]
  · rw [if_neg (mt (InProcess.getLast?_runningIn pools hne).1 hr)]
    simp only [if_neg hr] at hq ⊢
    refine hin.congr (fun q => ?_) rfl rfl rfl rfl
    by_cases hqq : q = queue <;> simp [hq, hqq]

theorem push {pools : PoolKeys} (hp : pools.ready ≠ pools.active) {queue : String}
    (hne : "" ∉ s.queue queue) (h : Mirrors d s) (job label : String) (now : Int)
    (seconds : Nat) :
    (Script.push queue pools job label now seconds d).1 =
        (s.push queue pools job label (seconds * 1000) now).1.texts ∧
      Mirrors (Script.push queue pools job label now seconds d).2
        (s.push queue pools job label (seconds * 1000) now).2 := by
  unfold Script.push
  dsimp only
  rw [h.queue]
  by_cases hj : job ∈ s.queue queue
  · rw [if_pos (List.contains_iff_mem.2 hj), s.push_of_mem _ _ _ _ hj]
    exact ⟨rfl, h⟩
  · rw [if_neg fun e => hj (List.contains_iff_mem.1 e)]
    obtain ⟨hf, hm⟩ := h.displace hp queue (s.queue queue) ⟨"", ""⟩ fun _ => rfl
    change _ = Script.Displaced.mk ((s.waitingIn queue pools).getLast?.getD "")
      ((s.runningIn queue pools).getLast?.getD "") at hf
    change Mirrors _ (((s.waitingIn queue pools).foldl (·.unlist pools ·) s).setQueue queue
      ((s.queue queue).filter (· ∉ s.waitingIn queue pools))) at hm
    rw [s.filter_not_mem_waitingIn] at hm
    have hin := enqueued hne hm job label now
    have hset := hin.setStatus (pools.status job) QueueState.queued.name seconds
    rw [hf]
    have hs := s.push_of_not_mem pools label (seconds * 1000) now hj
    rw [hs]
    refine ⟨?_, hset⟩
    have hlen : Database.llen _ queue = _ := congrArg List.length (hset.queue queue)
    have hqueue := s.queue_push pools label (seconds * 1000) now hj queue
    rw [hs, if_pos rfl] at hqueue
    rw [hqueue, List.length_append, List.length_singleton] at hlen
    simp only [PushReply.texts, hin.get, InProcess.status?_enqueued, hlen]
    rfl

/-! ## A start -/

theorem admitReady (pools : PoolKeys) (capacity : Nat) (now : Int) (seconds : Nat)
    (jobs : List String) (p : Script.Progress) (h : Mirrors d s)
    (hc : p.admitted.length ≤ capacity) {reply : StartReply}
    (hr : InProcess.admitReady pools (seconds * 1000) now s (capacity - p.admitted.length) p.busy
      jobs = (reply, t)) :
    (Script.admitReady pools capacity now seconds jobs p d).1.admitted =
        p.admitted ++ reply.admitted ∧
      (Script.admitReady pools capacity now seconds jobs p d).1.stale = p.stale ++ reply.stale ∧
      Mirrors (Script.admitReady pools capacity now seconds jobs p d).2 t := by
  induction jobs generalizing d s p reply t with
  | nil =>
    obtain ⟨rfl, rfl⟩ := Prod.mk.inj hr
    exact ⟨(List.append_nil _).symm, (List.append_nil _).symm, h⟩
  | cons job rest ih =>
    rw [Script.admitReady]
    by_cases hfull : p.admitted.length ≥ capacity
    · rw [Nat.sub_eq_zero_of_le hfull] at hr
      obtain ⟨rfl, rfl⟩ := Prod.mk.inj hr
      rw [if_pos hfull]
      exact ⟨(List.append_nil _).symm, (List.append_nil _).symm, h⟩
    obtain ⟨room, hroom⟩ : ∃ room, capacity - p.admitted.length = room + 1 :=
      ⟨capacity - p.admitted.length - 1, by omega⟩
    rw [hroom, InProcess.admitReady] at hr
    rw [if_neg hfull, h.field, h.get]
    by_cases hs : s.status? (pools.status job) = some QueueState.queued.name
    · rw [if_neg (not_not.2 hs)] at hr ⊢
      by_cases hb : p.busy.contains ((s.field? pools.owners job).getD job) = true
      · rw [if_pos hb] at hr ⊢
        exact ih p h hc (by rw [hroom, hr])
      · rw [if_neg hb] at hr ⊢
        obtain ⟨rfl, rfl⟩ := Prod.mk.inj hr
        have hin := ((h.leave pools.ready job).join pools.active job now).setStatus
          (pools.status job) QueueState.starting.name seconds
        have hlen : capacity - (p.admitted ++ [job]).length = room := by
          rw [List.length_append, List.length_singleton]
          omega
        obtain ⟨ha, hst, hm⟩ := ih ⟨p.admitted ++ [job], p.stale,
          (s.field? pools.owners job).getD job :: p.busy⟩ hin (by simp; omega) (by rw [hlen])
        exact ⟨by rw [ha, List.append_assoc]; rfl, hst, hm⟩
    · rw [if_pos hs] at hr ⊢
      obtain ⟨rfl, rfl⟩ := Prod.mk.inj hr
      cases ho : s.field? pools.owners job with
      | none =>
        obtain ⟨ha, hst, hm⟩ := ih ⟨p.admitted, p.stale ++ [job], p.busy⟩
          (h.leave pools.ready job) hc (by rw [hroom])
        exact ⟨ha, by rw [hst, List.append_assoc]; rfl, hm⟩
      | some queue =>
        obtain ⟨ha, hst, hm⟩ := ih ⟨p.admitted, p.stale ++ [job], p.busy⟩
          (h.retire queue pools job now).2 hc (by rw [hroom])
        exact ⟨ha, by rw [hst, List.append_assoc]; rfl, hm⟩

theorem start (h : Mirrors d s) (pools : PoolKeys) (max : Nat) (now : Int) (seconds : Nat) :
    (Script.start pools max now seconds d).1 =
        ((s.start pools max (seconds * 1000) now).1.admitted,
          (s.start pools max (seconds * 1000) now).1.stale) ∧
      Mirrors (Script.start pools max now seconds d).2
        (s.start pools max (seconds * 1000) now).2 := by
  unfold Script.start InProcess.start
  dsimp only
  simp only [h.zcard, h.zrange, h.field]
  by_cases hfull : max - (s.members pools.active).length = 0
  · rw [if_pos hfull, hfull]
    cases (s.members pools.ready).map Prod.fst with
    | nil => exact ⟨rfl, h⟩
    | cons job rest => exact ⟨rfl, h⟩
  · rw [if_neg hfull]
    obtain ⟨ha, hst, hm⟩ := h.admitReady pools (max - (s.members pools.active).length) now seconds
      ((s.members pools.ready).map Prod.fst)
      ⟨[], [], (s.members pools.active).filterMap fun m => s.field? pools.owners m.1⟩
      (Nat.zero_le _) rfl
    exact ⟨Prod.ext ha hst, hm⟩

/-! ## A swap -/

theorem swap (h : Mirrors d s) (pools : PoolKeys) (change : StatusSwap) (seconds : Nat)
    (now : Int) :
    (Script.swap pools change.queue change.job change.expected change.next seconds change.retire
        now d).1 = (s.swap pools change (seconds * 1000) now).1.texts ∧
      Mirrors (Script.swap pools change.queue change.job change.expected change.next seconds
        change.retire now d).2 (s.swap pools change (seconds * 1000) now).2 := by
  unfold Script.swap InProcess.swap
  dsimp only
  rw [h.get]
  cases hcur : s.status? (pools.status change.job) with
  | none => exact ⟨rfl, h⟩
  | some current =>
    simp only [ne_eq, Option.some.injEq]
    by_cases he : current = change.expected
    · rw [if_neg (not_not.2 he), if_neg (not_not.2 he)]
      have hs := h.setStatus (pools.status change.job) change.next seconds
      cases change.retire with
      | false =>
        simp only [Bool.false_eq_true, if_false, SwapReply.texts]
        exact ⟨by decide, hs⟩
      | true =>
        obtain ⟨hfound, hm⟩ := hs.retire change.queue pools change.job now
        refine ⟨?_, hm⟩
        simp only [if_true, hfound, SwapReply.texts]
        cases (InProcess.retire _ change.queue pools change.job now).1 <;> rfl
    · rw [if_pos he, if_pos he]
      exact ⟨rfl, h⟩

end Mirrors

end BuildQueue
