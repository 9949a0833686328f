import BuildQueue.Proofs.Store.Admission

/-!
# What the store keeps under a name

Everything in the store stands under some name (`cell`). Two stores may hold the same under some
names and differ elsewhere (`AlikeOn`). An operation whose names all lie in a set `D` is answered
alike by two stores that are alike on `D`, and leaves them so (`AlikeOn.perform`); under the names
outside of `D` nothing changes (`apart_perform`). The names of an operation are those it is given
and those that it finds in the table of owners.
-/

namespace BuildQueue.InProcess

open Std (TreeMap)

/-- What stands under one name. -/
structure Cell where
  queue : List String
  pool : TreeMap String Int
  table : TreeMap String String
  status : Option (String × Nat)

def cell (s : InProcess) (name : String) : Cell :=
  ⟨s.queue name, s.poolMap name, s.table name, s.statuses[name]?⟩

/-- Two stores that hold the same under the names of `D` at the same time. -/
structure AlikeOn (D : String → Prop) (s t : InProcess) : Prop where
  clock : s.clock = t.clock
  cell : ∀ name, D name → s.cell name = t.cell name

/-- Two stores that hold the same under the names outside of `D` at the same time. -/
abbrev Apart (D : String → Prop) (s t : InProcess) : Prop := AlikeOn (fun name => ¬ D name) s t

/-- An operation that changes what stands under one name, at the time of the store. -/
structure Edits (name : String) (change : Nat → Cell → Cell) (f : InProcess → InProcess) :
    Prop where
  clock : ∀ s, (f s).clock = s.clock
  cell : ∀ s n, (f s).cell n = if n = name then change s.clock (s.cell n) else s.cell n

/-! ## One name -/

section Edits

theorem edits_setQueue (name : String) (jobs : List String) :
    Edits name (fun _ c => { c with queue := jobs }) (·.setQueue name jobs) where
  clock _ := rfl
  cell s n := by
    simp only [cell, queue_setQueue]
    split <;> rfl

theorem edits_join (pool job : String) (now : Int) :
    Edits pool (fun _ c => { c with pool := c.pool.insert job now }) (·.join pool job now) where
  clock _ := rfl
  cell s n := by
    by_cases h : n = pool
    · subst h
      simp [cell, poolMap, join, queue, table]
    · simp [cell, poolMap, join, queue, table, Std.TreeMap.getD_insert, h, Ne.symm h]

theorem edits_leave (pool job : String) :
    Edits pool (fun _ c => { c with pool := c.pool.erase job }) (·.leave pool job) where
  clock _ := rfl
  cell s n := by
    by_cases h : n = pool
    · subst h
      simp [cell, poolMap, leave, queue, table]
    · simp [cell, poolMap, leave, queue, table, Std.TreeMap.getD_insert, h, Ne.symm h]

theorem edits_setField (table job text : String) :
    Edits table (fun _ c => { c with table := c.table.insert job text })
      (·.setField table job text) where
  clock _ := rfl
  cell s n := by
    by_cases h : n = table
    · subst h
      simp [cell, InProcess.table, setField, queue, poolMap]
    · simp [cell, InProcess.table, setField, queue, poolMap, Std.TreeMap.getD_insert, h, Ne.symm h]

theorem edits_eraseField (table job : String) :
    Edits table (fun _ c => { c with table := c.table.erase job }) (·.eraseField table job) where
  clock _ := rfl
  cell s n := by
    by_cases h : n = table
    · subst h
      simp [cell, InProcess.table, eraseField, queue, poolMap]
    · simp [cell, InProcess.table, eraseField, queue, poolMap, Std.TreeMap.getD_insert, h,
        Ne.symm h]

theorem edits_setStatus (name text : String) (ttl : Nat) :
    Edits name (fun clock c => { c with status := some (text, clock + ttl) })
      (·.setStatus name text ttl) where
  clock _ := rfl
  cell s n := by
    by_cases h : n = name
    · subst h
      simp [cell, setStatus, queue, poolMap, table]
    · simp [cell, setStatus, queue, poolMap, table, Std.TreeMap.getElem?_insert, h, Ne.symm h]

end Edits

variable {D : String → Prop} {s t u : InProcess}

namespace AlikeOn

theorem refl (D : String → Prop) (s : InProcess) : AlikeOn D s s := ⟨rfl, fun _ _ => rfl⟩

theorem trans (h : AlikeOn D s t) (h' : AlikeOn D t u) : AlikeOn D s u :=
  ⟨h.clock.trans h'.clock, fun n hn => (h.cell n hn).trans (h'.cell n hn)⟩

theorem edit {name : String} {change : Nat → Cell → Cell} {f : InProcess → InProcess}
    (hf : Edits name change f) (h : AlikeOn D s t) : AlikeOn D (f s) (f t) where
  clock := by rw [hf.clock, hf.clock, h.clock]
  cell n hn := by rw [hf.cell, hf.cell, h.clock, h.cell n hn]

/-! ## What is read -/

variable (h : AlikeOn D s t) {name : String} (hn : D name)
include h hn

theorem queue : s.queue name = t.queue name := congrArg Cell.queue (h.cell name hn)

theorem poolMap : s.poolMap name = t.poolMap name := congrArg Cell.pool (h.cell name hn)

theorem score? (job : String) : s.score? name job = t.score? name job := by
  rw [InProcess.score?, h.poolMap hn, InProcess.score?]

theorem members : s.members name = t.members name := by
  rw [InProcess.members, h.poolMap hn, InProcess.members]

theorem field? (job : String) : s.field? name job = t.field? name job := by
  have htable : s.table name = t.table name := congrArg Cell.table (h.cell name hn)
  rw [InProcess.field?, htable, InProcess.field?]

theorem status? : s.status? name = t.status? name := by
  have hstatus : s.statuses[name]? = t.statuses[name]? := congrArg Cell.status (h.cell name hn)
  rw [status?_eq_bind, status?_eq_bind, hstatus, h.clock]

end AlikeOn

theorem Edits.apart {name : String} {change : Nat → Cell → Cell} {f : InProcess → InProcess}
    (hf : Edits name change f) (hn : D name) (s : InProcess) : Apart D s (f s) where
  clock := (hf.clock s).symm
  cell n hnot := by
    have hne : n ≠ name := fun e => hnot (e ▸ hn)
    rw [hf.cell, if_neg hne]

/-! ## Operations -/

/-- The names of a deployment's common structures lie in `D`. -/
structure PoolsIn (D : String → Prop) (pools : PoolKeys) : Prop where
  ready : D pools.ready
  active : D pools.active
  owners : D pools.owners
  labels : D pools.labels
  status : ∀ job, D (pools.status job)

/-- The queues that the table of owners speaks of lie in `D`. -/
def OwnersIn (D : String → Prop) (pools : PoolKeys) (s : InProcess) : Prop :=
  ∀ job queue, s.field? pools.owners job = some queue → D queue

section Operations

variable {pools : PoolKeys} (hp : PoolsIn D pools) {queue : String} (hq : D queue)

theorem AlikeOn.unlist (h : AlikeOn D s t) (pools : PoolKeys) (job : String) :
    AlikeOn D (s.unlist pools job) (t.unlist pools job) :=
  ((h.edit (edits_leave _ _)).edit (edits_eraseField _ _)).edit (edits_eraseField _ _)

theorem AlikeOn.foldl_unlist (h : AlikeOn D s t) (pools : PoolKeys) (jobs : List String) :
    AlikeOn D (jobs.foldl (·.unlist pools ·) s) (jobs.foldl (·.unlist pools ·) t) := by
  induction jobs generalizing s t with
  | nil => exact h
  | cons job jobs ih => exact ih (h.unlist pools job)

section
include hp hq

theorem AlikeOn.promote (h : AlikeOn D s t) (now : Int) :
    AlikeOn D (s.promote queue pools now) (t.promote queue pools now) := by
  unfold InProcess.promote
  rw [h.queue hq]
  cases (t.queue queue).head? with
  | none => exact h
  | some head =>
    dsimp only
    rw [h.score? hp.active, h.score? hp.ready]
    split
    · exact h.edit (edits_join _ _ _)
    · exact h

theorem AlikeOn.retire (h : AlikeOn D s t) (job : String) (now : Int) :
    (s.retire queue pools job now).1 = (t.retire queue pools job now).1 ∧
      AlikeOn D (s.retire queue pools job now).2 (t.retire queue pools job now).2 := by
  have hout : AlikeOn D ((s.leave pools.active job).unlist pools job)
      ((t.leave pools.active job).unlist pools job) :=
    (h.edit (edits_leave _ _)).unlist pools job
  refine ⟨congrArg Option.isSome (h.score? hp.active job), ?_⟩
  refine AlikeOn.promote hp hq ?_ now
  rw [hout.queue hq]
  exact hout.edit (edits_setQueue _ _)

end

section
include hp

theorem apart_unlist (s : InProcess) (job : String) : Apart D s (s.unlist pools job) :=
  (((edits_leave _ _).apart hp.ready s).trans ((edits_eraseField _ _).apart hp.owners _)).trans
    ((edits_eraseField _ _).apart hp.labels _)

theorem apart_foldl_unlist (s : InProcess) (jobs : List String) :
    Apart D s (jobs.foldl (·.unlist pools ·) s) := by
  induction jobs generalizing s with
  | nil => exact .refl _ s
  | cons job jobs ih => exact (apart_unlist hp s job).trans (ih _)

theorem apart_promote (s : InProcess) (queue : String) (now : Int) :
    Apart D s (s.promote queue pools now) := by
  unfold promote
  split
  · exact .refl _ s
  · split
    · exact (edits_join _ _ _).apart hp.ready s
    · exact .refl _ s

include hq in
theorem apart_retire (s : InProcess) (job : String) (now : Int) :
    Apart D s (s.retire queue pools job now).2 :=
  ((((edits_leave _ _).apart hp.active s).trans (apart_unlist hp _ job)).trans
    ((edits_setQueue _ _).apart hq _)).trans (apart_promote hp _ queue now)

end

/-! ### Pushes -/

section
include hp hq

theorem AlikeOn.enqueued (h : AlikeOn D s t) (job label : String) (now : Int) :
    AlikeOn D (s.enqueued queue pools job label now) (t.enqueued queue pools job label now) := by
  have hrunning : s.runningIn queue pools = t.runningIn queue pools := by
    simp only [runningIn, h.queue hq, h.score? hp.active]
  have hwaiting : s.waitingIn queue pools = t.waitingIn queue pools := by
    simp only [waitingIn, h.queue hq, h.score? hp.active]
  unfold InProcess.enqueued
  rw [hrunning, hwaiting]
  have hlisted := (((h.foldl_unlist pools (t.waitingIn queue pools)).edit
    (edits_setQueue queue (t.runningIn queue pools ++ [job]))).edit
    (edits_setField pools.owners job queue)).edit (edits_setField pools.labels job label)
  dsimp only
  split
  · exact hlisted.edit (edits_join _ _ _)
  · exact hlisted

theorem AlikeOn.push (h : AlikeOn D s t) (job label : String) (ttl : Nat) (now : Int) :
    (s.push queue pools job label ttl now).1 = (t.push queue pools job label ttl now).1 ∧
      AlikeOn D (s.push queue pools job label ttl now).2
        (t.push queue pools job label ttl now).2 := by
  by_cases hj : job ∈ s.queue queue
  · have hj' : job ∈ t.queue queue := h.queue hq ▸ hj
    rw [s.push_of_mem pools label ttl now hj, t.push_of_mem pools label ttl now hj', h.queue hq]
    exact ⟨rfl, h⟩
  · have hj' : job ∉ t.queue queue := h.queue hq ▸ hj
    rw [s.push_of_not_mem pools label ttl now hj, t.push_of_not_mem pools label ttl now hj']
    refine ⟨?_, (AlikeOn.enqueued hp hq h job label now).edit (edits_setStatus _ _ _)⟩
    simp only [runningIn, waitingIn, h.queue hq, h.score? hp.active, h.status? (hp.status job)]

theorem apart_push (s : InProcess) (job label : String) (ttl : Nat) (now : Int) :
    Apart D s (s.push queue pools job label ttl now).2 := by
  by_cases hj : job ∈ s.queue queue
  · rw [s.push_of_mem pools label ttl now hj]
    exact .refl _ s
  · rw [s.push_of_not_mem pools label ttl now hj]
    refine AlikeOn.trans ?_ ((edits_setStatus _ _ _).apart (hp.status job) _)
    have hlisted := (((apart_foldl_unlist hp s (s.waitingIn queue pools)).trans
      ((edits_setQueue queue (s.runningIn queue pools ++ [job])).apart hq _)).trans
      ((edits_setField pools.owners job queue).apart hp.owners _)).trans
      ((edits_setField pools.labels job label).apart hp.labels _)
    unfold enqueued
    dsimp only
    split
    · exact hlisted.trans ((edits_join _ _ _).apart hp.ready _)
    · exact hlisted

end

/-! ### Starts -/

theorem OwnersIn.retire (h : OwnersIn D pools s) (queue job : String) (now : Int) :
    OwnersIn D pools (s.retire queue pools job now).2 := by
  intro j q hj
  rw [s.field?_retire queue job now (.inl rfl)] at hj
  split at hj
  · cases hj
  · exact h j q hj

theorem OwnersIn.admitReady (hown : OwnersIn D pools s) (ttl : Nat) (now : Int)
    (capacity : Nat) (busy jobs : List String) :
    OwnersIn D pools (InProcess.admitReady pools ttl now s capacity busy jobs).2 := by
  induction jobs generalizing s capacity busy with
  | nil => exact hown
  | cons job rest ih =>
    cases capacity with
    | zero => exact hown
    | succ room =>
      rw [InProcess.admitReady]
      split
      · split
        · exact ih (hown.retire _ job now) _ _
        · exact ih (s := s.leave pools.ready job) hown _ _
      · split
        · exact ih hown _ _
        · exact ih (s := s.admitted pools job ttl now) hown _ _

theorem AlikeOn.admitted (h : AlikeOn D s t) (pools : PoolKeys) (job : String) (ttl : Nat)
    (now : Int) : AlikeOn D (s.admitted pools job ttl now) (t.admitted pools job ttl now) :=
  ((h.edit (edits_leave _ _)).edit (edits_join _ _ _)).edit (edits_setStatus _ _ _)

section
include hp

theorem apart_admitted (s : InProcess) (job : String) (ttl : Nat) (now : Int) :
    Apart D s (s.admitted pools job ttl now) :=
  (((edits_leave _ _).apart hp.ready s).trans ((edits_join _ _ _).apart hp.active _)).trans
    ((edits_setStatus _ _ _).apart (hp.status job) _)

/-- The queue of a job that is dropped is the one that the table of owners knows. -/
theorem AlikeOn.admitReady (h : AlikeOn D s t) (hown : OwnersIn D pools s) (ttl : Nat) (now : Int)
    (capacity : Nat) (busy jobs : List String) :
    (InProcess.admitReady pools ttl now s capacity busy jobs).1 =
        (InProcess.admitReady pools ttl now t capacity busy jobs).1 ∧
      AlikeOn D (InProcess.admitReady pools ttl now s capacity busy jobs).2
        (InProcess.admitReady pools ttl now t capacity busy jobs).2 := by
  induction jobs generalizing s t capacity busy with
  | nil => exact ⟨rfl, h⟩
  | cons job rest ih =>
    cases capacity with
    | zero => exact ⟨rfl, h⟩
    | succ room =>
      rw [InProcess.admitReady, InProcess.admitReady, ← h.field? hp.owners,
        ← h.status? (hp.status job)]
      let drop (reply : StartReply) : StartReply := { reply with stale := job :: reply.stale }
      dsimp only
      split
      · cases howner : s.field? pools.owners job with
        | none =>
          obtain ⟨hreply, hstore⟩ := ih (h.edit (edits_leave pools.ready job)) hown (room + 1) busy
          exact ⟨congrArg drop hreply, hstore⟩
        | some queue =>
          obtain ⟨hreply, hstore⟩ := ih (h.retire hp (hown job queue howner) job now).2
            (hown.retire queue job now) (room + 1) busy
          exact ⟨congrArg drop hreply, hstore⟩
      · split
        · exact ih h hown _ _
        · obtain ⟨hreply, hstore⟩ := ih (h.admitted pools job ttl now) hown room
            ((s.field? pools.owners job).getD job :: busy)
          refine ⟨?_, hstore⟩
          exact congrArg (fun r : StartReply => { r with admitted := job :: r.admitted }) hreply

theorem apart_admitReady (s : InProcess) (hown : OwnersIn D pools s) (ttl : Nat) (now : Int)
    (capacity : Nat) (busy jobs : List String) :
    Apart D s (InProcess.admitReady pools ttl now s capacity busy jobs).2 := by
  induction jobs generalizing s capacity busy with
  | nil => exact .refl _ s
  | cons job rest ih =>
    cases capacity with
    | zero => exact .refl _ s
    | succ room =>
      rw [InProcess.admitReady]
      split
      · split
        · next queue howner =>
          exact (apart_retire hp (hown job queue howner) s job now).trans
            (ih _ (hown.retire queue job now) _ _)
        · exact ((edits_leave pools.ready job).apart hp.ready s).trans
            (ih (s.leave pools.ready job) hown _ _)
      · split
        · exact ih s hown _ _
        · exact (apart_admitted hp s job ttl now).trans
            (ih (s.admitted pools job ttl now) hown _ _)

theorem AlikeOn.start (h : AlikeOn D s t) (hown : OwnersIn D pools s) (max ttl : Nat) (now : Int) :
    (s.start pools max ttl now).1 = (t.start pools max ttl now).1 ∧
      AlikeOn D (s.start pools max ttl now).2 (t.start pools max ttl now).2 := by
  unfold InProcess.start
  dsimp only
  rw [h.members hp.active, h.members hp.ready]
  simp only [h.field? hp.owners]
  exact h.admitReady hp hown ttl now _ _ _

/-! ### Swaps -/

theorem AlikeOn.swap (h : AlikeOn D s t) {change : StatusSwap} (hq : D change.queue) (ttl : Nat)
    (now : Int) : (s.swap pools change ttl now).1 = (t.swap pools change ttl now).1 ∧
      AlikeOn D (s.swap pools change ttl now).2 (t.swap pools change ttl now).2 := by
  have hset := h.edit (edits_setStatus (pools.status change.job) change.next ttl)
  unfold InProcess.swap
  dsimp only
  rw [h.status? (hp.status change.job)]
  split
  · exact ⟨rfl, h⟩
  · split
    · obtain ⟨hheld, hstore⟩ := hset.retire hp hq change.job now
      exact ⟨congrArg SwapReply.applied hheld, hstore⟩
    · exact ⟨rfl, hset⟩

theorem apart_swap (s : InProcess) {change : StatusSwap} (hq : D change.queue) (ttl : Nat)
    (now : Int) : Apart D s (s.swap pools change ttl now).2 := by
  have hset := (edits_setStatus (pools.status change.job) change.next ttl).apart
    (hp.status change.job) s
  unfold InProcess.swap
  dsimp only
  split
  · exact .refl _ s
  · split
    · exact hset.trans (apart_retire hp hq _ change.job now)
    · exact hset

end

end Operations

end BuildQueue.InProcess

namespace BuildQueue

open InProcess (PoolsIn OwnersIn AlikeOn Apart)

/-- The operation speaks of names in `D` only. -/
def StoreCall.NamesIn (D : String → Prop) : StoreCall → Prop
  | .push queue pools _ _ _ => PoolsIn D pools ∧ D queue
  | .start pools _ _ => PoolsIn D pools
  | .swap pools change _ => PoolsIn D pools ∧ D change.queue
  | .status name => D name
  | .pool pools _ => PoolsIn D pools

/-- The operation is one of the deployment with these pools. -/
def StoreCall.Uses (pools : PoolKeys) : StoreCall → Prop
  | .push _ p _ _ _ | .start p _ _ | .swap p _ _ | .pool p _ => p = pools
  | .status _ => True

namespace InProcess

variable {D : String → Prop} {s t : InProcess} {pools : PoolKeys} {c : StoreCall}
  (hc : c.NamesIn D) (hu : c.Uses pools)
include hc hu

/-- Stores that are alike where the operation looks answer alike and stay so. -/
theorem AlikeOn.perform (h : AlikeOn D s t) (hown : OwnersIn D pools s) (now : Int) :
    (s.perform now c).1 = (t.perform now c).1 ∧
      AlikeOn D (s.perform now c).2 (t.perform now c).2 := by
  cases c with
  | push queue p job label ttl => exact h.push hc.1 hc.2 job label ttl now
  | start p max ttl => exact h.start hc (hu ▸ hown) max ttl now
  | swap p change ttl => exact h.swap hc.1 hc.2 ttl now
  | status name => exact ⟨h.status? hc, h⟩
  | pool p which =>
    refine ⟨?_, h⟩
    cases which with
    | ready =>
      simp only [InProcess.perform, entries, h.members hc.ready, h.field? hc.labels]
    | active =>
      simp only [InProcess.perform, entries, h.members hc.active, h.field? hc.labels]

/-- Where the operation does not look, nothing changes. -/
theorem apart_perform (hown : OwnersIn D pools s) (now : Int) :
    Apart D s (s.perform now c).2 := by
  cases c with
  | push queue p job label ttl => exact apart_push hc.1 hc.2 s job label ttl now
  | start p max ttl => exact apart_admitReady hc s (hu ▸ hown) ttl now _ _ _
  | swap p change ttl => exact apart_swap hc.1 s hc.2 ttl now
  | status name => exact .refl _ s
  | pool p which => exact .refl _ s

/-- The table of owners goes on to speak of queues in `D` only. -/
theorem OwnersIn.perform (hd : pools.Distinct) (hown : OwnersIn D pools s) (now : Int) :
    OwnersIn D pools (s.perform now c).2 := by
  cases c with
  | push queue p job label ttl =>
    obtain rfl := hu
    by_cases hj : job ∈ s.queue queue
    · rw [InProcess.perform, s.push_of_mem p label ttl now hj]
      exact hown
    · intro j q h
      rw [InProcess.perform, s.owner_push p label ttl now hj hd] at h
      split at h
      · exact Option.some.inj h ▸ hc.2
      · split at h
        · cases h
        · exact hown j q h
  | start p max ttl =>
    obtain rfl := hu
    exact hown.admitReady ttl now _ _ _
  | swap p change ttl =>
    obtain rfl := hu
    unfold InProcess.perform InProcess.swap
    dsimp only
    split
    · exact hown
    · split
      · exact OwnersIn.retire (s := s.setStatus (p.status change.job) change.next ttl) hown
          change.queue change.job now
      · exact hown
  | status name => exact hown
  | pool p which => exact hown

end InProcess

end BuildQueue
