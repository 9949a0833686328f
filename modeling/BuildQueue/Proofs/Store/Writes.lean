import BuildQueue.Proofs.Store.Structure

/-!
# Who writes a status

A push, a start and a swap write statuses, and nothing else does: whatever is done to the store, the
entry of a status is the one that was written last (`statuses_apply`). The writes of a run, one
after the other, are the history of a status.
-/

namespace BuildQueue

/-- A write of a status. -/
inductive StatusWrite where
  /-- A push of a job that its queue did not have. -/
  | queued
  /-- A start that gave the job a slot. -/
  | admitted
  /-- A swap that was applied. -/
  | swapped (expected next : String)
  deriving DecidableEq, Repr

/-- The text that is written. -/
def StatusWrite.text : StatusWrite → String
  | queued => QueueState.queued.name
  | admitted => QueueState.starting.name
  | swapped _ next => next

/-- How long a status lives that the event writes. -/
def StoreEvent.ttl : StoreEvent → Nat
  | .call (.push _ _ _ _ ttl) _ => ttl
  | .call (.start _ _ ttl) _ => ttl
  | .call (.swap _ _ ttl) _ => ttl
  | _ => 0

namespace InProcess

variable (s : InProcess)

/-! ## The entries of statuses -/

@[simp] theorem statuses_promote (queue : String) (pools : PoolKeys) (now : Int) :
    (s.promote queue pools now).statuses = s.statuses := by
  unfold promote
  split
  · rfl
  · split <;> rfl

@[simp] theorem clock_promote (queue : String) (pools : PoolKeys) (now : Int) :
    (s.promote queue pools now).clock = s.clock := by
  unfold promote
  split
  · rfl
  · split <;> rfl

@[simp] theorem statuses_retire (queue : String) (pools : PoolKeys) (job : String) (now : Int) :
    (s.retire queue pools job now).2.statuses = s.statuses :=
  statuses_promote _ _ _ _

@[simp] theorem clock_retire (queue : String) (pools : PoolKeys) (job : String) (now : Int) :
    (s.retire queue pools job now).2.clock = s.clock :=
  clock_promote _ _ _ _

theorem statuses_setStatus (name text : String) (ttl : Nat) (n : String) :
    (s.setStatus name text ttl).statuses[n]? =
      if n = name then some (text, s.clock + ttl) else s.statuses[n]? := by
  rw [setStatus, Std.TreeMap.getElem?_insert]
  by_cases h : n = name
  · simp [h]
  · simp [h, Ne.symm h]

theorem statuses_foldl_unlist (pools : PoolKeys) (jobs : List String) :
    (jobs.foldl (·.unlist pools ·) s).statuses = s.statuses := by
  induction jobs generalizing s with
  | nil => rfl
  | cons job jobs ih => exact ih (s.unlist pools job)

theorem clock_foldl_unlist (pools : PoolKeys) (jobs : List String) :
    (jobs.foldl (·.unlist pools ·) s).clock = s.clock := by
  induction jobs generalizing s with
  | nil => rfl
  | cons job jobs ih => exact ih (s.unlist pools job)

section Push

variable (queue : String) (pools : PoolKeys) (job label : String) (now : Int)

theorem statuses_enqueued : (s.enqueued queue pools job label now).statuses = s.statuses := by
  unfold enqueued
  split <;> exact s.statuses_foldl_unlist pools _

theorem clock_enqueued : (s.enqueued queue pools job label now).clock = s.clock := by
  unfold enqueued
  split <;> exact s.clock_foldl_unlist pools _

end Push

/-! ## A start -/

section Start

variable (pools : PoolKeys) (ttl : Nat) (now : Int)

/-- A walk over ready jobs writes the statuses of those that it admits. -/
theorem statuses_admitReady (jobs : List String) (capacity : Nat) (busy : List String)
    (n : String) :
    (admitReady pools ttl now s capacity busy jobs).2.statuses[n]? =
      if ∃ job ∈ (admitReady pools ttl now s capacity busy jobs).1.admitted, n = pools.status job
      then some (QueueState.starting.name, s.clock + ttl) else s.statuses[n]? := by
  induction jobs generalizing s capacity busy with
  | nil => simp [admitReady]
  | cons job rest ih =>
    cases capacity with
    | zero => simp [admitReady]
    | succ room =>
      rw [admitReady]
      split
      · split
        · next queue ho =>
          have h := ih (s.retire queue pools job now).2 (room + 1) busy
          rw [statuses_retire, clock_retire] at h
          exact h
        · exact ih (s.leave pools.ready job) _ _
      · split
        · exact ih s _ _
        · have h := ih (s.admitted pools job ttl now) room
            ((s.field? pools.owners job).getD job :: busy)
          have hstatus : (s.admitted pools job ttl now).statuses[n]? =
              if n = pools.status job then some (QueueState.starting.name, s.clock + ttl)
              else s.statuses[n]? := statuses_setStatus _ _ _ _ _
          have hclock : (s.admitted pools job ttl now).clock = s.clock := rfl
          refine h.trans ?_
          rw [hstatus, hclock]
          by_cases hn : n = pools.status job
          · simp [hn]
          · simp only [List.exists_mem_cons_iff, hn, if_false, false_or]
            rfl

/-- A job that the walk admits was one of those walked over, and waited. -/
theorem queued_of_admitted {jobs : List String} (hn : jobs.Nodup) (capacity : Nat)
    (busy : List String) {job : String}
    (h : job ∈ (admitReady pools ttl now s capacity busy jobs).1.admitted) :
    job ∈ jobs ∧ s.status? (pools.status job) = some QueueState.queued.name := by
  induction jobs generalizing s capacity busy with
  | nil => cases h
  | cons head rest ih =>
    obtain ⟨hhead, hrest⟩ := List.nodup_cons.1 hn
    cases capacity with
    | zero => cases h
    | succ room =>
      rw [admitReady] at h
      split at h
      · split at h
        · obtain ⟨hm, hs⟩ := ih _ hrest _ _ h
          rw [status?_retire] at hs
          exact ⟨List.mem_cons_of_mem _ hm, hs⟩
        · obtain ⟨hm, hs⟩ := ih (s.leave pools.ready head) hrest _ _ h
          exact ⟨List.mem_cons_of_mem _ hm, hs⟩
      · next hq =>
        split at h
        · obtain ⟨hm, hs⟩ := ih s hrest _ _ h
          exact ⟨List.mem_cons_of_mem _ hm, hs⟩
        · rcases List.mem_cons.1 h with rfl | h
          · exact ⟨List.mem_cons_self, not_not.1 hq⟩
          · obtain ⟨hm, hs⟩ := ih (s.admitted pools head ttl now) hrest _ _ h
            have hne : job ≠ head := fun e => hhead (e ▸ hm)
            rw [admitted, status?_setStatus_of_ne _ _ hne] at hs
            exact ⟨List.mem_cons_of_mem _ hm, hs⟩

end Start

/-! ## Histories -/

/-- What an event writes to a status, which its reply tells. -/
def write? (s : InProcess) (e : StoreEvent) (name : String) : Option StatusWrite :=
  match e with
  | .call (.push queue pools job label ttl) now =>
    if name = pools.status job ∧ (s.push queue pools job label ttl now).1.duplicate = false then
      some .queued
    else none
  | .call (.start pools max ttl) now =>
    if ∃ job ∈ (s.start pools max ttl now).1.admitted, name = pools.status job then some .admitted
    else none
  | .call (.swap pools change ttl) now =>
    match (s.swap pools change ttl now).1 with
    | .applied _ =>
      if name = pools.status change.job then some (.swapped change.expected change.next) else none
    | .rejected _ => none
  | _ => none

theorem write?_push {queue : String} {pools : PoolKeys} {job label : String} {ttl : Nat} {now : Int}
    {name : String} {w : StatusWrite} :
    s.write? (.call (.push queue pools job label ttl) now) name = some w ↔
      w = .queued ∧ name = pools.status job ∧ job ∉ s.queue queue := by
  rw [write?]
  by_cases hj : job ∈ s.queue queue
  · simp [s.push_of_mem _ _ _ _ hj, hj]
  · rw [s.push_of_not_mem _ _ _ _ hj]
    simp [hj, eq_comm, and_comm]

theorem write?_swap {pools : PoolKeys} {change : StatusSwap} {ttl : Nat} {now : Int}
    {name : String} {w : StatusWrite} :
    s.write? (.call (.swap pools change ttl) now) name = some w ↔
      w = .swapped change.expected change.next ∧ name = pools.status change.job ∧
        s.status? name = some change.expected := by
  rw [write?]
  by_cases hs : s.status? (pools.status change.job) = some change.expected
  · obtain ⟨held, e⟩ := s.swap_of_eq hs ttl now
    rw [e]
    by_cases hn : name = pools.status change.job
    · simp [hn, hs, eq_comm]
    · simp [hn]
  · rw [s.swap_of_ne hs]
    by_cases hn : name = pools.status change.job
    · simp [hn, hs]
    · simp [hn]

/-- The entry of a status after an event is what the event has written, if anything. -/
theorem statuses_apply (e : StoreEvent) (name : String) :
    (s.apply e).statuses[name]? =
      match s.write? e name with
      | some w => some (w.text, s.clock + e.ttl)
      | none => s.statuses[name]? := by
  cases e with
  | call c now =>
    cases c with
    | push queue pools job label ttl =>
      simp only [apply, perform, write?]
      by_cases hj : job ∈ s.queue queue
      · simp [s.push_of_mem _ _ _ _ hj]
      · rw [s.push_of_not_mem _ _ _ _ hj, statuses_setStatus, statuses_enqueued, clock_enqueued]
        by_cases hn : name = pools.status job
        · simp [hn, StatusWrite.text, StoreEvent.ttl]
        · simp [hn]
    | start pools max ttl =>
      simp only [apply, perform, write?, start, statuses_admitReady]
      split
      · rfl
      · rfl
    | swap pools change ttl =>
      simp only [apply, perform, write?]
      by_cases hs : s.status? (pools.status change.job) = some change.expected
      · obtain ⟨held, e⟩ := s.swap_of_eq hs ttl now
        have hset : (s.swap pools change ttl now).2.statuses[name]? =
            (s.setStatus (pools.status change.job) change.next ttl).statuses[name]? := by
          rw [e]
          dsimp only
          split
          · rw [statuses_retire]
          · rfl
        rw [hset, statuses_setStatus, e]
        by_cases hn : name = pools.status change.job
        · simp [hn, StatusWrite.text, StoreEvent.ttl]
        · simp [hn]
      · rw [s.swap_of_ne hs]
    | status other => rfl
    | pool pools which => rfl
  | complete queue pools job now => simp [apply, write?]
  | advance ms => rfl

/-- The writes of a status in a run, the first one first. -/
def writes (s : InProcess) (name : String) : List StoreEvent → List StatusWrite
  | [] => []
  | e :: events => (s.write? e name).toList ++ (s.apply e).writes name events

theorem writes_append (name : String) (events later : List StoreEvent) :
    s.writes name (events ++ later) =
      s.writes name events ++ (s.run events).writes name later := by
  induction events generalizing s with
  | nil => rfl
  | cons first events ih =>
    rw [List.cons_append, writes, ih, writes, List.append_assoc]
    rfl

theorem writes_concat (name : String) (events : List StoreEvent) (e : StoreEvent) :
    s.writes name (events ++ [e]) =
      s.writes name events ++ ((s.run events).write? e name).toList := by
  rw [writes_append, writes, writes, List.append_nil]

theorem run_concat (events : List StoreEvent) (e : StoreEvent) :
    s.run (events ++ [e]) = (s.run events).apply e :=
  List.foldl_append

end InProcess

end BuildQueue
