import BuildQueue.Store.Call
import Mathlib.Data.List.Perm.Subperm

/-!
# The store seen through its operations

What each small operation of the store does to the queues, the pools, the tables and the statuses.
Whoever reads a later state of the store reads it through these lemmas and never opens a map.
-/

namespace BuildQueue

/-- The pools are two, and so are the tables. -/
structure PoolKeys.Distinct (pools : PoolKeys) : Prop where
  ready_ne_active : pools.ready ≠ pools.active
  owners_ne_labels : pools.owners ≠ pools.labels

theorem KeyLayout.pools_distinct (layout : KeyLayout) : layout.pools.Distinct := by
  constructor <;> simp [pools]

namespace InProcess

variable (s : InProcess)

/-- The job is in the pool. -/
def InPool (pool job : String) : Prop := (s.score? pool job).isSome = true

instance (pool job : String) : Decidable (s.InPool pool job) :=
  inferInstanceAs (Decidable (_ = true))

/-! ## Queues -/

@[simp] theorem queue_setQueue (name : String) (jobs : List String) (q : String) :
    (s.setQueue name jobs).queue q = if q = name then jobs else s.queue q := by
  simp only [queue, setQueue, Std.TreeMap.getD_insert, Std.compare_eq_iff_eq]
  by_cases h : q = name
  · simp [h]
  · simp [h, Ne.symm h]

@[simp] theorem queue_join (pool job : String) (now : Int) (q : String) :
    (s.join pool job now).queue q = s.queue q := rfl

@[simp] theorem queue_leave (pool job q : String) : (s.leave pool job).queue q = s.queue q := rfl

@[simp] theorem queue_setField (table job text q : String) :
    (s.setField table job text).queue q = s.queue q := rfl

@[simp] theorem queue_eraseField (table job q : String) :
    (s.eraseField table job).queue q = s.queue q := rfl

@[simp] theorem queue_setStatus (name text : String) (ttl : Nat) (q : String) :
    (s.setStatus name text ttl).queue q = s.queue q := rfl

@[simp] theorem queue_advance (ms : Nat) (q : String) : (s.advance ms).queue q = s.queue q := rfl

/-! ## Pools -/

@[simp] theorem score?_join (pool job : String) (now : Int) (p j : String) :
    (s.join pool job now).score? p j = if p = pool ∧ j = job then some now else s.score? p j := by
  simp only [score?, poolMap, join, Std.TreeMap.getD_insert, Std.compare_eq_iff_eq]
  by_cases hp : p = pool
  · by_cases hj : j = job
    · simp [hp, hj]
    · simp [hp, hj, Ne.symm hj, Std.TreeMap.getElem?_insert]
  · simp [hp, Ne.symm hp]

@[simp] theorem score?_leave (pool job p j : String) :
    (s.leave pool job).score? p j = if p = pool ∧ j = job then none else s.score? p j := by
  simp only [score?, poolMap, leave, Std.TreeMap.getD_insert, Std.compare_eq_iff_eq]
  by_cases hp : p = pool
  · by_cases hj : j = job
    · simp [hp, hj]
    · simp [hp, hj, Ne.symm hj, Std.TreeMap.getElem?_erase]
  · simp [hp, Ne.symm hp]

@[simp] theorem score?_setQueue (name : String) (jobs : List String) (p j : String) :
    (s.setQueue name jobs).score? p j = s.score? p j := rfl

@[simp] theorem score?_setField (table job text p j : String) :
    (s.setField table job text).score? p j = s.score? p j := rfl

@[simp] theorem score?_eraseField (table job p j : String) :
    (s.eraseField table job).score? p j = s.score? p j := rfl

@[simp] theorem score?_setStatus (name text : String) (ttl : Nat) (p j : String) :
    (s.setStatus name text ttl).score? p j = s.score? p j := rfl

@[simp] theorem score?_advance (ms : Nat) (p j : String) :
    (s.advance ms).score? p j = s.score? p j := rfl

/-! ## Tables -/

@[simp] theorem field?_setField (table job text t j : String) :
    (s.setField table job text).field? t j =
      if t = table ∧ j = job then some text else s.field? t j := by
  simp only [field?, InProcess.table, setField, Std.TreeMap.getD_insert, Std.compare_eq_iff_eq]
  by_cases ht : t = table
  · by_cases hj : j = job
    · simp [ht, hj]
    · simp [ht, hj, Ne.symm hj, Std.TreeMap.getElem?_insert]
  · simp [ht, Ne.symm ht]

@[simp] theorem field?_eraseField (table job t j : String) :
    (s.eraseField table job).field? t j =
      if t = table ∧ j = job then none else s.field? t j := by
  simp only [field?, InProcess.table, eraseField, Std.TreeMap.getD_insert, Std.compare_eq_iff_eq]
  by_cases ht : t = table
  · by_cases hj : j = job
    · simp [ht, hj]
    · simp [ht, hj, Ne.symm hj, Std.TreeMap.getElem?_erase]
  · simp [ht, Ne.symm ht]

@[simp] theorem field?_setQueue (name : String) (jobs : List String) (t j : String) :
    (s.setQueue name jobs).field? t j = s.field? t j := rfl

@[simp] theorem field?_join (pool job : String) (now : Int) (t j : String) :
    (s.join pool job now).field? t j = s.field? t j := rfl

@[simp] theorem field?_leave (pool job t j : String) :
    (s.leave pool job).field? t j = s.field? t j := rfl

@[simp] theorem field?_setStatus (name text : String) (ttl : Nat) (t j : String) :
    (s.setStatus name text ttl).field? t j = s.field? t j := rfl

@[simp] theorem field?_advance (ms : Nat) (t j : String) :
    (s.advance ms).field? t j = s.field? t j := rfl

/-! ## Statuses -/

theorem status?_eq_bind (n : String) :
    s.status? n = s.statuses[n]?.bind fun e => if e.2 ≤ s.clock then none else some e.1 := by
  unfold status?
  cases s.statuses[n]? <;> rfl

variable {s} in
/-- A live status is what was written last. -/
theorem text_of_status? {name raw : String} (h : s.status? name = some raw) :
    s.statuses[name]?.map Prod.fst = some raw := by
  rw [status?_eq_bind] at h
  obtain ⟨entry, he, hraw⟩ := Option.bind_eq_some_iff.1 h
  rw [he]
  split at hraw
  · cases hraw
  · exact hraw

/-- A status written for no time at all is gone at once. -/
@[simp] theorem status?_setStatus (name text : String) (ttl : Nat) (n : String) :
    (s.setStatus name text ttl).status? n =
      if n = name then (if ttl = 0 then none else some text) else s.status? n := by
  simp only [status?_eq_bind, setStatus, Std.TreeMap.getElem?_insert, Std.compare_eq_iff_eq]
  by_cases hn : n = name
  · by_cases ht : ttl = 0
    · simp [hn, ht]
    · have : ¬ s.clock + ttl ≤ s.clock := by omega
      simp [hn, ht, this]
  · simp [hn, Ne.symm hn]

theorem eq_of_status?_setStatus {name text : String} {ttl : Nat} {raw : String}
    (h : (s.setStatus name text ttl).status? name = some raw) : raw = text := by
  rw [status?_setStatus, if_pos rfl] at h
  split at h
  · cases h
  · exact (Option.some.inj h).symm

@[simp] theorem status?_setQueue (name : String) (jobs : List String) (n : String) :
    (s.setQueue name jobs).status? n = s.status? n := rfl

@[simp] theorem status?_join (pool job : String) (now : Int) (n : String) :
    (s.join pool job now).status? n = s.status? n := rfl

@[simp] theorem status?_leave (pool job n : String) :
    (s.leave pool job).status? n = s.status? n := rfl

@[simp] theorem status?_setField (table job text n : String) :
    (s.setField table job text).status? n = s.status? n := rfl

@[simp] theorem status?_eraseField (table job n : String) :
    (s.eraseField table job).status? n = s.status? n := rfl

theorem advance_advance (m n : Nat) : (s.advance m).advance n = s.advance (m + n) :=
  congrArg (fun clock => { s with clock }) (Nat.add_assoc _ _ _)

/-- Time takes statuses away and brings none back. -/
theorem status?_advance {ms : Nat} {n text : String} (h : (s.advance ms).status? n = some text) :
    s.status? n = some text := by
  rw [status?_eq_bind] at h ⊢
  obtain ⟨e, he, ht⟩ := Option.bind_eq_some_iff.1 h
  refine Option.bind_eq_some_iff.2 ⟨e, he, ?_⟩
  have hc : (s.advance ms).clock = s.clock + ms := rfl
  by_cases hle : e.2 ≤ (s.advance ms).clock
  · rw [if_pos hle] at ht
    cases ht
  · rw [if_neg hle] at ht
    rwa [if_neg (by omega)]

/-- No status of the store has expired. -/
def Unexpired : Prop :=
  ∀ (name text : String) (expiry : Nat),
    s.statuses[name]? = some (text, expiry) → s.clock < expiry

instance : Decidable s.Unexpired :=
  decidable_of_iff (∀ entry ∈ s.statuses.toList, s.clock < entry.2.2) <| by
    simp only [Unexpired, Prod.forall, Std.TreeMap.mem_toList_iff_getElem?_eq_some]

variable {s} in
theorem Unexpired.ttl_ne_zero {name text : String} {ttl : Nat}
    (h : (s.setStatus name text ttl).Unexpired) : ttl ≠ 0 := by
  have hlt : s.clock < s.clock + ttl := h name text _ (by simp [setStatus])
  omega

variable {s} in
theorem Unexpired.status?_advance {ms : Nat} (h : (s.advance ms).Unexpired) (n : String) :
    (s.advance ms).status? n = s.status? n := by
  rw [status?_eq_bind, status?_eq_bind]
  show s.statuses[n]?.bind _ = _
  cases he : s.statuses[n]? with
  | none => rfl
  | some entry =>
    obtain ⟨text, expiry⟩ := entry
    have hlt : s.clock + ms < expiry := h n text expiry he
    have hc : (s.advance ms).clock = s.clock + ms := rfl
    simp only [Option.bind_some]
    rw [if_neg (by omega), if_neg (by omega)]

theorem status_inj (pools : PoolKeys) {a b : String} :
    pools.status a = pools.status b ↔ a = b := by
  simp [PoolKeys.status]

/-- The status of one job says nothing about that of another. -/
theorem status?_setStatus_of_ne (pools : PoolKeys) {job other : String} (h : other ≠ job)
    (text : String) (ttl : Nat) :
    (s.setStatus (pools.status job) text ttl).status? (pools.status other) =
      s.status? (pools.status other) := by
  rw [status?_setStatus, if_neg fun e => h ((status_inj pools).1 e)]

/-! ## Pools as sets of jobs -/

@[simp] theorem inPool_empty (pool job : String) : ¬ ({} : InProcess).InPool pool job := by
  simp [InPool, score?, poolMap]

@[simp] theorem inPool_join (pool job : String) (now : Int) (p j : String) :
    (s.join pool job now).InPool p j ↔ (p = pool ∧ j = job) ∨ s.InPool p j := by
  simp only [InPool, score?_join]
  by_cases h : p = pool ∧ j = job <;> simp [h]

@[simp] theorem inPool_leave (pool job p j : String) :
    (s.leave pool job).InPool p j ↔ ¬ (p = pool ∧ j = job) ∧ s.InPool p j := by
  simp only [InPool, score?_leave]
  by_cases h : p = pool ∧ j = job <;> simp [h]

@[simp] theorem inPool_setQueue (name : String) (jobs : List String) (p j : String) :
    (s.setQueue name jobs).InPool p j ↔ s.InPool p j := Iff.rfl

@[simp] theorem inPool_setField (table job text p j : String) :
    (s.setField table job text).InPool p j ↔ s.InPool p j := Iff.rfl

@[simp] theorem inPool_eraseField (table job p j : String) :
    (s.eraseField table job).InPool p j ↔ s.InPool p j := Iff.rfl

@[simp] theorem inPool_setStatus (name text : String) (ttl : Nat) (p j : String) :
    (s.setStatus name text ttl).InPool p j ↔ s.InPool p j := Iff.rfl

@[simp] theorem inPool_advance (ms : Nat) (p j : String) :
    (s.advance ms).InPool p j ↔ s.InPool p j := Iff.rfl

/-! ## Pools in order -/

theorem members_empty (pool : String) : ({} : InProcess).members pool = [] := by
  show List.mergeSort [] inOrder = []
  simp

theorem mem_members {pool job : String} {since : Int} :
    (job, since) ∈ s.members pool ↔ s.score? pool job = some since := by
  rw [members, List.mem_mergeSort, Std.TreeMap.mem_toList_iff_getElem?_eq_some, score?]

theorem mem_map_members {pool job : String} :
    job ∈ (s.members pool).map Prod.fst ↔ s.InPool pool job := by
  rw [InPool, Option.isSome_iff_exists]
  simp [mem_members]

theorem nodup_map_members (pool : String) : ((s.members pool).map Prod.fst).Nodup := by
  have hp := (List.mergeSort_perm (s.poolMap pool).toList inOrder).map Prod.fst
  rw [members, hp.nodup_iff, Std.TreeMap.map_fst_toList_eq_keys]
  exact Std.TreeMap.nodup_keys

/-- Jobs of one pool are no more than the pool has members. -/
theorem length_le_members {pool : String} {jobs : List String} (hn : jobs.Nodup)
    (hj : ∀ job ∈ jobs, s.InPool pool job) : jobs.length ≤ (s.members pool).length := by
  have hsub : jobs ⊆ (s.members pool).map Prod.fst := fun job h => s.mem_map_members.2 (hj job h)
  simpa using (hn.subperm hsub).length_le

variable {s} in
theorem length_members_le {t : InProcess} {pool : String}
    (h : ∀ job, t.InPool pool job → s.InPool pool job) :
    (t.members pool).length ≤ (s.members pool).length := by
  have hl := s.length_le_members (t.nodup_map_members pool)
    fun job hj => h job (t.mem_map_members.1 hj)
  simpa using hl

variable {s} in
/-- One job more makes the pool longer by one at most. -/
theorem length_members_le_succ {t : InProcess} {pool job : String}
    (h : ∀ j, t.InPool pool j → j = job ∨ s.InPool pool j) :
    (t.members pool).length ≤ (s.members pool).length + 1 := by
  have hsub : (t.members pool).map Prod.fst ⊆ job :: (s.members pool).map Prod.fst := by
    intro j hj
    rw [List.mem_cons, s.mem_map_members]
    exact h j (t.mem_map_members.1 hj)
  simpa using ((t.nodup_map_members pool).subperm hsub).length_le

variable {s} in
/-- A pool that a new job has joined and no other job has left is longer. -/
theorem length_members_lt {t : InProcess} {pool job : String} (hs : ¬ s.InPool pool job)
    (ht : t.InPool pool job) (h : ∀ j, s.InPool pool j → t.InPool pool j) :
    (s.members pool).length < (t.members pool).length := by
  have hnot : job ∉ (s.members pool).map Prod.fst := fun hm => hs (s.mem_map_members.1 hm)
  have hl := t.length_le_members (List.nodup_cons.2 ⟨hnot, s.nodup_map_members pool⟩)
    (List.forall_mem_cons.2 ⟨ht, fun j hj => h j (s.mem_map_members.1 hj)⟩)
  rwa [List.length_cons, List.length_map] at hl

/-! ## Taking a job out -/

section Unlist

variable (pools : PoolKeys) (job : String)

@[simp] theorem queue_unlist (q : String) : (s.unlist pools job).queue q = s.queue q := rfl

@[simp] theorem status?_unlist (n : String) : (s.unlist pools job).status? n = s.status? n := rfl

@[simp] theorem inPool_unlist (p j : String) :
    (s.unlist pools job).InPool p j ↔ ¬ (p = pools.ready ∧ j = job) ∧ s.InPool p j := by
  simp [unlist]

theorem field?_unlist {t : String} (ht : t = pools.owners ∨ t = pools.labels) (j : String) :
    (s.unlist pools job).field? t j = if j = job then none else s.field? t j := by
  simp only [unlist, field?_eraseField, field?_leave]
  by_cases hj : j = job
  · rcases ht with ht | ht <;> simp [ht, hj]
  · simp [hj]

end Unlist

section Promote

variable (queue : String) (pools : PoolKeys) (now : Int)

@[simp] theorem queue_promote (q : String) :
    (s.promote queue pools now).queue q = s.queue q := by
  unfold promote
  split
  · rfl
  · split <;> rfl

@[simp] theorem field?_promote (t j : String) :
    (s.promote queue pools now).field? t j = s.field? t j := by
  unfold promote
  split
  · rfl
  · split <;> rfl

@[simp] theorem status?_promote (n : String) :
    (s.promote queue pools now).status? n = s.status? n := by
  unfold promote
  split
  · rfl
  · split <;> rfl

/-- Only the head of the queue may have become ready, and it has unless it holds a slot. -/
theorem inPool_promote (p j : String) :
    (s.promote queue pools now).InPool p j ↔
      s.InPool p j ∨
        (p = pools.ready ∧ (s.queue queue).head? = some j ∧ ¬ s.InPool pools.active j) := by
  unfold promote
  cases hq : (s.queue queue).head? with
  | none => simp
  | some head =>
    by_cases hi : (s.score? pools.active head).isNone ∧ (s.score? pools.ready head).isNone
    · have ha : ¬ s.InPool pools.active head := by simp [InPool, hi.1]
      simp only [hi.1, hi.2, Bool.and_self, if_true, inPool_join, Option.some.injEq]
      constructor
      · rintro (⟨rfl, rfl⟩ | h)
        · exact .inr ⟨rfl, rfl, ha⟩
        · exact .inl h
      · rintro (h | ⟨rfl, rfl, -⟩)
        · exact .inr h
        · exact .inl ⟨rfl, rfl⟩
    · dsimp only
      rw [if_neg (by rwa [Bool.and_eq_true])]
      refine ⟨.inl, ?_⟩
      rintro (h | ⟨rfl, hj, ha⟩)
      · exact h
      · obtain rfl := Option.some.inj hj
        unfold InPool at ha ⊢
        cases hs : s.score? pools.ready head with
        | some _ => rfl
        | none => simp_all

end Promote

section Retire

variable {pools : PoolKeys} (queue job : String) (now : Int)

@[simp] theorem queue_retire (q : String) :
    (s.retire queue pools job now).2.queue q =
      if q = queue then (s.queue queue).filter (· ≠ job) else s.queue q := by
  simp [retire]

@[simp] theorem status?_retire (n : String) :
    (s.retire queue pools job now).2.status? n = s.status? n := by
  simp [retire]

variable {s queue job now} in
theorem Unexpired.of_retire (h : (s.retire queue pools job now).2.Unexpired) : s.Unexpired := by
  have hs : (s.retire queue pools job now).2.statuses = s.statuses := by
    unfold retire promote
    dsimp only
    split
    · rfl
    · split <;> rfl
  have hc : (s.retire queue pools job now).2.clock = s.clock := by
    unfold retire promote
    dsimp only
    split
    · rfl
    · split <;> rfl
  unfold Unexpired at h
  rwa [hs, hc] at h

theorem field?_retire {t : String} (ht : t = pools.owners ∨ t = pools.labels) (j : String) :
    (s.retire queue pools job now).2.field? t j = if j = job then none else s.field? t j := by
  simp [retire, field?_unlist _ _ _ ht]

theorem inPool_active_retire (h : pools.Distinct) (j : String) :
    (s.retire queue pools job now).2.InPool pools.active j ↔
      j ≠ job ∧ s.InPool pools.active j := by
  simp [retire, inPool_promote, h.ready_ne_active.symm]

/-- The head of what is left of the queue is ready unless it holds a slot. -/
theorem inPool_ready_retire (h : pools.Distinct) (j : String) :
    (s.retire queue pools job now).2.InPool pools.ready j ↔
      (j ≠ job ∧ s.InPool pools.ready j) ∨
        (((s.queue queue).filter (· ≠ job)).head? = some j ∧
          ¬ (j ≠ job ∧ s.InPool pools.active j)) := by
  simp [retire, inPool_promote, h.ready_ne_active, h.ready_ne_active.symm]

end Retire

/-! ## A swap -/

theorem swap_of_eq {pools : PoolKeys} {change : StatusSwap}
    (h : s.status? (pools.status change.job) = some change.expected) (ttl : Nat) (now : Int) :
    ∃ held, s.swap pools change ttl now = (.applied held,
      if change.retire then
        ((s.setStatus (pools.status change.job) change.next ttl).retire change.queue pools
          change.job now).2
      else s.setStatus (pools.status change.job) change.next ttl) := by
  unfold swap
  dsimp only
  rw [if_neg (not_not.2 h)]
  split
  · exact ⟨_, rfl⟩
  · exact ⟨_, rfl⟩

theorem swap_of_ne {pools : PoolKeys} {change : StatusSwap}
    (h : s.status? (pools.status change.job) ≠ some change.expected) (ttl : Nat) (now : Int) :
    s.swap pools change ttl now = (.rejected (s.status? (pools.status change.job)), s) := by
  unfold swap
  dsimp only
  rw [if_pos h]

/-! ## Taking several jobs out -/

section UnlistAll

variable (pools : PoolKeys) (jobs : List String)

theorem queue_foldl_unlist (q : String) :
    (jobs.foldl (·.unlist pools ·) s).queue q = s.queue q := by
  induction jobs generalizing s with
  | nil => rfl
  | cons j jobs ih => rw [List.foldl_cons, ih, queue_unlist]

theorem status?_foldl_unlist (n : String) :
    (jobs.foldl (·.unlist pools ·) s).status? n = s.status? n := by
  induction jobs generalizing s with
  | nil => rfl
  | cons j jobs ih => rw [List.foldl_cons, ih, status?_unlist]

theorem inPool_foldl_unlist (p j : String) :
    (jobs.foldl (·.unlist pools ·) s).InPool p j ↔
      ¬ (p = pools.ready ∧ j ∈ jobs) ∧ s.InPool p j := by
  induction jobs generalizing s with
  | nil => simp
  | cons i jobs ih =>
    rw [List.foldl_cons, ih, inPool_unlist, List.mem_cons]
    tauto

theorem field?_foldl_unlist {t : String} (ht : t = pools.owners ∨ t = pools.labels) (j : String) :
    (jobs.foldl (·.unlist pools ·) s).field? t j = if j ∈ jobs then none else s.field? t j := by
  induction jobs generalizing s with
  | nil => simp
  | cons i jobs ih =>
    rw [List.foldl_cons, ih, field?_unlist _ _ _ ht]
    by_cases hj : j ∈ jobs
    · simp [hj]
    · by_cases hi : j = i <;> simp [hj, hi]

end UnlistAll

/-! ## A push -/

section Push

variable (queue : String) (pools : PoolKeys) (job label : String) (ttl : Nat) (now : Int)

/-- The jobs of the queue that hold a slot. -/
def runningIn : List String := (s.queue queue).filter fun e => (s.score? pools.active e).isSome

/-- The jobs of the queue that hold no slot. -/
def waitingIn : List String := (s.queue queue).filter fun e => !(s.score? pools.active e).isSome

variable {pools} in
theorem runningIn_of_free (h : ∀ j, ¬ s.InPool pools.active j) : s.runningIn queue pools = [] :=
  List.filter_eq_nil_iff.2 fun j _ hj => h j hj

variable {pools} in
theorem waitingIn_of_free (h : ∀ j, ¬ s.InPool pools.active j) :
    s.waitingIn queue pools = s.queue queue :=
  List.filter_eq_self.2 fun j _ => by simpa [InPool] using h j

variable {queue job}

theorem push_of_mem (h : job ∈ s.queue queue) :
    s.push queue pools job label ttl now =
      (⟨(s.queue queue).length, none, none, true, none⟩, s) := by
  have hc : (s.queue queue).contains job = true := List.contains_iff_mem.2 h
  simp only [push, hc, if_true]

/-- The store when a push has put the job into its queue and has written no status yet. -/
def enqueued (s : InProcess) (queue : String) (pools : PoolKeys) (job label : String) (now : Int) :
    InProcess :=
  let t := (s.waitingIn queue pools).foldl (·.unlist pools ·) s
  let t := t.setQueue queue (s.runningIn queue pools ++ [job])
  let t := (t.setField pools.owners job queue).setField pools.labels job label
  if s.runningIn queue pools = [] then t.join pools.ready job now else t

theorem status?_enqueued (n : String) :
    (s.enqueued queue pools job label now).status? n = s.status? n := by
  unfold enqueued
  split <;> simp [status?_foldl_unlist]

variable (h : job ∉ s.queue queue)
include h

/-- A push of a job that the queue does not have. -/
theorem push_of_not_mem : s.push queue pools job label ttl now =
    (⟨(s.runningIn queue pools).length + 1, (s.waitingIn queue pools).getLast?,
      (s.runningIn queue pools).getLast?, false, s.status? (pools.status job)⟩,
      (s.enqueued queue pools job label now).setStatus (pools.status job)
        QueueState.queued.name ttl) := by
  have hc : ¬ (s.queue queue).contains job = true := fun e => h (List.contains_iff_mem.1 e)
  rw [← s.status?_enqueued pools label now]
  simp only [push, if_neg hc, List.partition_eq_filter_filter, List.isEmpty_iff]
  rfl

theorem queue_push (q : String) : (s.push queue pools job label ttl now).2.queue q =
    if q = queue then s.runningIn queue pools ++ [job] else s.queue q := by
  rw [s.push_of_not_mem _ _ _ _ h]
  unfold enqueued
  split <;> simp [queue_foldl_unlist]

theorem Unexpired.ttl_ne_zero_of_push
    (hu : (s.push queue pools job label ttl now).2.Unexpired) : ttl ≠ 0 := by
  rw [s.push_of_not_mem _ _ _ _ h] at hu
  exact hu.ttl_ne_zero

/-- Only the status of the pushed job is written. -/
theorem status?_push (n : String) : (s.push queue pools job label ttl now).2.status? n =
    if n = pools.status job then (if ttl = 0 then none else some QueueState.queued.name)
    else s.status? n := by
  rw [s.push_of_not_mem _ _ _ _ h, status?_setStatus, status?_enqueued]

theorem inPool_active_push (hd : pools.Distinct) (j : String) :
    (s.push queue pools job label ttl now).2.InPool pools.active j ↔ s.InPool pools.active j := by
  rw [s.push_of_not_mem _ _ _ _ h]
  unfold enqueued
  split <;> simp [inPool_foldl_unlist, hd.ready_ne_active.symm]

theorem inPool_ready_push (j : String) :
    (s.push queue pools job label ttl now).2.InPool pools.ready j ↔
      (j ∉ s.waitingIn queue pools ∧ s.InPool pools.ready j) ∨
        (s.runningIn queue pools = [] ∧ j = job) := by
  rw [s.push_of_not_mem _ _ _ _ h]
  unfold enqueued
  split
  · next hr => simp [inPool_foldl_unlist, hr, or_comm]
  · next hr => simp [inPool_foldl_unlist, hr]

theorem owner_push (hd : pools.Distinct) (j : String) :
    (s.push queue pools job label ttl now).2.field? pools.owners j =
      if j = job then some queue
      else if j ∈ s.waitingIn queue pools then none else s.field? pools.owners j := by
  rw [s.push_of_not_mem _ _ _ _ h]
  unfold enqueued
  split <;> simp [field?_foldl_unlist, hd.owners_ne_labels]

theorem label_push (hd : pools.Distinct) (j : String) :
    (s.push queue pools job label ttl now).2.field? pools.labels j =
      if j = job then some label
      else if j ∈ s.waitingIn queue pools then none else s.field? pools.labels j := by
  rw [s.push_of_not_mem _ _ _ _ h]
  unfold enqueued
  split <;> simp [field?_foldl_unlist, hd.owners_ne_labels.symm]

end Push

end InProcess

end BuildQueue
