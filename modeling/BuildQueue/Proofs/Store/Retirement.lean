import BuildQueue.Proofs.Store.Departures

/-!
# What a retired job leaves behind

A job that is retired leaves every structure, and the job behind it is ready from then on. All other
jobs stay where they are, with the times at which they joined their pools (`Follows.retired`). A
ready job has none behind it, so that one leaves and nothing else happens (`Follows.not_behind`).
-/

namespace BuildQueue

/-- The job behind another one of a lane waits for it. -/
theorem Lane.pair_infix_jobs {l : Lane} {first second : String} :
    [first, second] <:+: l.jobs ↔ l.running = some first ∧ l.waiting = some second := by
  constructor
  · intro h
    have hlen : l.jobs.length = 2 := Nat.le_antisymm l.length_jobs_le h.length_le
    exact of_jobs_eq_cons_cons (h.eq_of_length hlen.symm).symm
  · rintro ⟨hr, hw⟩
    rw [jobs, hr, hw]
    exact List.infix_rfl

/-- Without a job the lane has a new head, which is at work or was ready before, or else stood
behind that job. -/
theorem Lane.head_drop {l : Lane} {job j : String} (hj : j ≠ job) :
    ((l.drop job).jobs.head? = some j ∧ l.running ≠ some j ∧ l.ready ≠ some j) ↔
      l.running = some job ∧ l.waiting = some j := by
  have hmem : (l.drop job).jobs.head? = some j → j ∈ l.jobs := fun h =>
    (mem_jobs_drop.1 (List.mem_of_head? h)).2
  rw [ne_eq, ne_eq, ready_eq_some]
  constructor
  · rintro ⟨hhead, hrun, hready⟩
    have hw : l.waiting = some j := (mem_jobs.1 (hmem hhead)).resolve_left hrun
    refine ⟨?_, hw⟩
    cases hr : l.running with
    | none => exact absurd ⟨hr, hw⟩ hready
    | some first =>
      by_contra hne
      have hkeep : (l.drop job).running = some first :=
        running_drop.2 ⟨fun e => hne (congrArg some e), hr⟩
      rw [jobs, hkeep] at hhead
      exact hrun (hr.trans hhead)
  · rintro ⟨hr, hw⟩
    have hgone : (l.drop job).running = none := by simp [drop, hr]
    refine ⟨?_, fun e => l.apart j e hw, fun e => ?_⟩
    · rw [jobs, hgone, waiting_drop.2 ⟨hj, hw⟩]
      rfl
    · rw [hr] at e
      cases e.1

namespace InProcess

variable (s : InProcess) {pools : PoolKeys}

/-- In the queue one job stands right behind the other. -/
def Behind (queue job next : String) : Prop := [job, next] <:+: s.queue queue

instance (queue job next : String) : Decidable (s.Behind queue job next) :=
  inferInstanceAs (Decidable (_ <:+: _))

theorem score?_unlist (job p j : String) : (s.unlist pools job).score? p j =
    if p = pools.ready ∧ j = job then none else s.score? p j := by
  simp [unlist]

theorem field?_unlist_of_ne {job j : String} (h : j ≠ job) (t : String) :
    (s.unlist pools job).field? t j = s.field? t j := by
  simp [unlist, h]

/-- The head of the queue joins if it is in no pool. -/
theorem score?_promote (queue : String) (now : Int) (p j : String) :
    (s.promote queue pools now).score? p j =
      if p = pools.ready ∧ (s.queue queue).head? = some j ∧ ¬ s.InPool pools.active j ∧
        ¬ s.InPool pools.ready j then some now else s.score? p j := by
  unfold promote
  cases hq : (s.queue queue).head? with
  | none => simp
  | some head =>
    have hfree : ((s.score? pools.active head).isNone && (s.score? pools.ready head).isNone) =
        true ↔ ¬ s.InPool pools.active head ∧ ¬ s.InPool pools.ready head := by
      simp [InPool]
    simp only [hfree, Option.some.injEq]
    split
    · next hin =>
      rw [score?_join]
      refine if_congr ⟨?_, ?_⟩ rfl rfl
      · rintro ⟨hp, rfl⟩
        exact ⟨hp, rfl, hin⟩
      · rintro ⟨hp, rfl, -⟩
        exact ⟨hp, rfl⟩
    · next hout =>
      rw [if_neg]
      rintro ⟨-, rfl, hin⟩
      exact hout hin

/-- What is left of the queues, pools and tables when a job has been taken out at the time `now`. -/
structure Retired (s t : InProcess) (pools : PoolKeys) (queue job : String) (now : Int) : Prop where
  queues : ∀ q, t.queue q = (s.queue q).filter (· ≠ job)
  lacks : t.Lacks pools job
  promoted : ∀ next, s.Behind queue job next → t.score? pools.ready next = some now
  /-- Nobody else joins or leaves a pool. -/
  scores : ∀ p j, j ≠ job → ¬ (p = pools.ready ∧ s.Behind queue job j) →
    t.score? p j = s.score? p j
  fields : ∀ n j, j ≠ job → t.field? n j = s.field? n j

namespace Retired

variable {s} {t : InProcess} {queue job : String} {now : Int}

/-- What is written to a status has nothing to do with it. -/
theorem of_setStatus {name text : String} {ttl : Nat}
    (h : (s.setStatus name text ttl).Retired t pools queue job now) :
    s.Retired t pools queue job now :=
  ⟨h.queues, h.lacks, h.promoted, h.scores, h.fields⟩

theorem advance (h : s.Retired t pools queue job now) (ms : Nat) :
    s.Retired (t.advance ms) pools queue job now where
  queues := h.queues
  lacks := ⟨h.lacks.queue, h.lacks.ready, h.lacks.active, h.lacks.owner, h.lacks.label⟩
  promoted := h.promoted
  scores := h.scores
  fields := h.fields

end Retired

namespace Follows

variable {s} {home : String → String} {lane : String → Lane} (h : s.Follows pools home lane)
include h

theorem behind_iff {job next : String} : s.Behind (home job) job next ↔
    (lane (home job)).running = some job ∧ (lane (home job)).waiting = some next := by
  rw [Behind, h.queue, Lane.pair_infix_jobs]

/-- Nobody stands behind a ready job. -/
theorem not_behind {job : String} (hj : s.InPool pools.ready job) (next : String) :
    ¬ s.Behind (home job) job next := by
  rw [h.ready, Lane.ready_eq_some] at hj
  rw [h.behind_iff, hj.1]
  rintro ⟨hr, -⟩
  cases hr

/-- When a job is taken out, the one behind it joins the ready pool. -/
theorem score?_retire {job j : String} (hj : j ≠ job) (now : Int) (p : String) :
    (s.retire (home job) pools job now).2.score? p j =
      if p = pools.ready ∧ s.Behind (home job) job j then some now else s.score? p j := by
  have hhead : (((s.queue (home job)).filter (· ≠ job)).head? = some j ∧
      ¬ s.InPool pools.active j ∧ ¬ s.InPool pools.ready j) ↔ s.Behind (home job) job j := by
    rw [h.behind_iff, h.queue, ← Lane.jobs_drop, ← Lane.head_drop hj]
    refine and_congr_right fun hh => ?_
    rw [h.active, h.ready, h.own _ j (Lane.mem_jobs_drop.1 (List.mem_of_head? hh)).2]
  refine Eq.trans ?_ (if_congr (and_congr_right fun _ => hhead) rfl rfl)
  simp only [InProcess.retire, score?_promote, queue_setQueue, if_true, inPool_setQueue,
    inPool_unlist, inPool_leave, score?_setQueue, score?_unlist, score?_leave, queue_unlist,
    queue_leave, hj, and_false, not_false_eq_true, true_and, if_false]

theorem retired (hd : pools.Distinct) (job : String) (now : Int) :
    s.Retired (s.retire (home job) pools job now).2 pools (home job) job now where
  queues q := by
    rw [queue_retire]
    by_cases e : q = home job
    · rw [if_pos e, e]
    · rw [if_neg e, eq_comm, List.filter_eq_self]
      intro j hj
      rw [h.queue] at hj
      exact decide_eq_true fun hjob => e (hjob ▸ h.own q j hj).symm
  lacks := (h.retire hd job now).lacks fun hm =>
    ((mem_queue_retire s pools home job now job).1 hm).2 rfl
  promoted next hb := by
    have hne : next ≠ job := by
      obtain ⟨hr, hw⟩ := h.behind_iff.1 hb
      exact fun e => (lane (home job)).apart next (e ▸ hr) hw
    rw [h.score?_retire hne, if_pos ⟨rfl, hb⟩]
  scores p j hj hb := by rw [h.score?_retire hj, if_neg hb]
  fields n j hj := by
    rw [InProcess.retire, field?_promote, field?_setQueue, field?_unlist_of_ne _ hj, field?_leave]

end Follows

end InProcess

end BuildQueue
