import BuildQueue.Proofs.Store.Structure
import Mathlib.Data.List.Induction

/-!
# How jobs leave

A queued job leaves only where somebody is told of it: a push names it as cancelled, a start names
it as stale, or it is completed or retired under its own name (`Dismisses`). One event takes out of
the queues the jobs that it dismisses and no others (`Follows.mem_queue_apply`), so along a run a
job stays until it is dismissed (`run_departures`). That one name suffices for a push rests on the
lanes: a queue has one waiting job at most.
-/

namespace BuildQueue.InProcess

/-- The event is a push that has taken the job into its queue. -/
def Accepts (s : InProcess) (job : String) : StoreEvent → Prop
  | .call (.push queue pools other label ttl) now =>
    other = job ∧ (s.push queue pools other label ttl now).1.duplicate = false
  | _ => False

/-- The event takes the job out of its queue, and its reply or its own arguments name the job. -/
def Dismisses (s : InProcess) (job : String) : StoreEvent → Prop
  | .call (.push queue pools other label ttl) now =>
    (s.push queue pools other label ttl now).1.cancelled = some job
  | .call (.start pools max ttl) now => job ∈ (s.start pools max ttl now).1.stale
  | .call (.swap pools change ttl) now =>
    change.job = job ∧ change.retire = true ∧
      ∃ held, (s.swap pools change ttl now).1 = .applied held
  | .complete _ _ other _ => other = job
  | _ => False

/-- The job is in no queue, in no pool and in no table. -/
structure Lacks (s : InProcess) (pools : PoolKeys) (job : String) : Prop where
  queue : ∀ q, job ∉ s.queue q
  ready : ¬ s.InPool pools.ready job
  active : ¬ s.InPool pools.active job
  owner : s.field? pools.owners job = none
  label : s.field? pools.labels job = none

variable {pools : PoolKeys} {home : String → String} {ttl : Nat} {now : Int} {s t : InProcess}
  {lane lane' : String → Lane}

namespace Follows

theorem mem_queue_home (h : s.Follows pools home lane) {job : String} :
    job ∈ s.queue (home job) ↔ job ∈ (lane (home job)).jobs := by
  rw [h.queue]

/-- A job that has left its queue has left everything. -/
theorem lacks (h : s.Follows pools home lane) {job : String} (hj : job ∉ s.queue (home job)) :
    s.Lacks pools job := by
  have hl : job ∉ (lane (home job)).jobs := fun hm => hj (h.mem_queue_home.2 hm)
  obtain ⟨ha, hr⟩ := h.not_inPool hl
  refine ⟨fun q hq => ?_, hr, ha, ?_, ?_⟩
  · rw [h.queue] at hq
    exact hl (h.own q job hq ▸ hq)
  · rw [h.owner, if_neg hl]
  · rw [← Option.not_isSome_iff_eq_none, h.label]
    exact hl

end Follows

/-- A retired job leaves its queue, and no other job does. -/
theorem mem_queue_retire (s : InProcess) (pools : PoolKeys) (home : String → String)
    (job : String) (now : Int) (j : String) :
    j ∈ (s.retire (home job) pools job now).2.queue (home j) ↔
      j ∈ s.queue (home j) ∧ j ≠ job := by
  rw [queue_retire]
  by_cases e : home j = home job
  · rw [if_pos e, e, List.mem_filter]
    simp
  · rw [if_neg e]
    have hne : j ≠ job := fun h => e (h ▸ rfl)
    exact (and_iff_left hne).symm

/-- A walk takes the jobs that it names as stale out of their queues. -/
theorem Walk.mem_queue {capacity : Nat} {jobs : List String} {reply : StartReply}
    (h : Walk pools home ttl now s lane capacity jobs reply t lane') (j : String) :
    j ∈ t.queue (home j) ↔ j ∈ s.queue (home j) ∧ j ∉ reply.stale := by
  induction h with
  | full jobs => simp
  | done capacity => simp
  | @stale s t lane lane' room job rest reply _ _ _ _ ih =>
    rw [ih, mem_queue_retire, List.mem_cons]
    tauto
  | @enter s t lane lane' room job rest reply _ _ _ _ ih => exact ih

/-! ## A push -/

/-- A push that is not a duplicate finds its job outside the queue. -/
theorem not_mem_of_push {queue job label : String}
    (hdup : (s.push queue pools job label ttl now).1.duplicate = false) : job ∉ s.queue queue := by
  intro hm
  rw [s.push_of_mem _ _ _ _ hm] at hdup
  cases hdup

namespace Follows

variable {job : String} (h : s.Follows pools home lane) (hj : job ∉ s.queue (home job))
  (label : String)
include h hj

/-- The reply to a push has room for all that was in the queue. -/
theorem push_reply : (s.push (home job) pools job label ttl now).1 =
    ⟨(lane (home job)).running.toList.length + 1, (lane (home job)).waiting,
      (lane (home job)).running, false, s.status? (pools.status job)⟩ := by
  have hlast : ∀ o : Option String, o.toList.getLast? = o := by
    rintro (_ | _) <;> rfl
  rw [s.push_of_not_mem _ _ _ _ hj, h.runningIn, h.waitingIn, hlast, hlast]

theorem aborted_push (j : String) :
    (s.push (home job) pools job label ttl now).1.aborted = some j ↔
      j ∈ s.queue (home job) ∧ s.InPool pools.active j := by
  rw [h.push_reply hj, h.queue, h.active]
  constructor
  · intro hr
    have hm := Lane.mem_jobs.2 (.inl hr)
    exact ⟨hm, by rwa [h.own _ j hm]⟩
  · rintro ⟨hm, hr⟩
    rwa [h.own _ j hm] at hr

theorem cancelled_push (j : String) :
    (s.push (home job) pools job label ttl now).1.cancelled = some j ↔
      j ∈ s.queue (home job) ∧ ¬ s.InPool pools.active j := by
  rw [h.push_reply hj, h.queue, h.active]
  constructor
  · intro hw
    have hm := Lane.mem_jobs.2 (.inr hw)
    rw [h.own _ j hm]
    exact ⟨hm, fun hr => (lane (home job)).apart j hr hw⟩
  · rintro ⟨hm, hr⟩
    rw [h.own _ j hm] at hr
    exact (Lane.mem_jobs.1 hm).resolve_left hr

theorem queue_push_home : (s.push (home job) pools job label ttl now).2.queue (home job) =
    (s.push (home job) pools job label ttl now).1.aborted.toList ++ [job] := by
  rw [s.queue_push _ _ _ _ hj, if_pos rfl, h.push_reply hj, h.runningIn]

theorem size_push : (s.push (home job) pools job label ttl now).1.size =
    ((s.push (home job) pools job label ttl now).2.queue (home job)).length := by
  rw [h.queue_push_home hj, h.push_reply hj]
  simp

/-- A push takes its job in and puts out the one that it names as cancelled. -/
theorem mem_queue_push (j : String) :
    j ∈ (s.push (home job) pools job label ttl now).2.queue (home j) ↔
      (j ∈ s.queue (home j) ∨ job = j) ∧
        (s.push (home job) pools job label ttl now).1.cancelled ≠ some j := by
  rw [ne_eq, h.cancelled_push hj]
  by_cases e : home j = home job
  · have ha : j ∈ (s.push (home job) pools job label ttl now).1.aborted.toList ↔ _ :=
      Option.mem_toList.trans (h.aborted_push hj label j)
    rw [e, h.queue_push_home hj, List.mem_append, ha, List.mem_singleton]
    by_cases hne : j = job
    · rw [hne]
      simp [hj]
    · have hne' : job ≠ j := fun e => hne e.symm
      tauto
  · have hne : job ≠ j := fun h => e (h ▸ rfl)
    have hout : j ∉ s.queue (home job) := fun hm => by
      rw [h.queue] at hm
      exact e (h.own _ j hm)
    rw [s.queue_push _ _ _ _ hj, if_neg e]
    tauto

end Follows

/-! ## One event, and a run -/

/-- A job is in its queue after an event if and only if it was there or is taken in, and is not
dismissed. -/
theorem mem_queue_apply (h : s.Follows pools home lane) (hd : pools.Distinct) {e : StoreEvent}
    (he : e.Respects pools home) (j : String) : j ∈ (s.apply e).queue (home j) ↔
      (j ∈ s.queue (home j) ∨ s.Accepts j e) ∧ ¬ s.Dismisses j e := by
  cases e with
  | call c now =>
    cases c with
    | push queue p job label ttl =>
      obtain ⟨rfl, rfl⟩ := he
      simp only [apply, perform, Accepts, Dismisses]
      by_cases hq : job ∈ s.queue (home job)
      · simp [s.push_of_mem _ _ _ _ hq]
      · rw [h.mem_queue_push hq, h.push_reply hq]
        simp
    | start p limit ttl =>
      obtain rfl : p = pools := he
      obtain ⟨lane', hw⟩ := h.walk_start hd limit ttl now
      simp only [apply, perform, Accepts, Dismisses, hw.mem_queue j, or_false]
    | swap p change ttl =>
      obtain ⟨rfl, hq⟩ := he
      simp only [apply, perform, Accepts, Dismisses]
      by_cases hs : s.status? (p.status change.job) = some change.expected
      · obtain ⟨held, e⟩ := s.swap_of_eq hs ttl now
        rw [e, hq]
        by_cases hr : change.retire = true
        · simp only [if_pos hr, mem_queue_retire, queue_setStatus]
          simp [hr, eq_comm]
        · simp [hr]
      · simp [s.swap_of_ne hs]
    | status name => simp [apply, perform, Accepts, Dismisses]
    | pool p which => simp [apply, perform, Accepts, Dismisses]
  | complete queue p job now =>
    obtain ⟨rfl, rfl⟩ := he
    simp only [apply, Accepts, Dismisses, mem_queue_retire]
    simp [eq_comm]
  | advance ms => simp [apply, Accepts, Dismisses]

/-- The push that takes a job in does not dismiss it. -/
theorem not_dismisses_of_accepts (h : s.Follows pools home lane) {e : StoreEvent}
    (he : e.Respects pools home) {j : String} (hacc : s.Accepts j e) : ¬ s.Dismisses j e := by
  match e, he, hacc with
  | .call (.push _ _ _ label ttl) now, ⟨rfl, rfl⟩, ⟨rfl, hdup⟩ =>
    have hj := not_mem_of_push hdup
    intro hdis
    exact hj ((h.cancelled_push hj label _).1 hdis).1

/-- A dismissed job is gone. -/
theorem lacks_apply (h : s.Follows pools home lane) (hd : pools.Distinct) {e : StoreEvent}
    (he : e.Respects pools home) {j : String} (hj : s.Dismisses j e) :
    (s.apply e).Lacks pools j := by
  obtain ⟨lane', h'⟩ := h.apply hd he
  exact h'.lacks fun hm => ((mem_queue_apply h hd he j).1 hm).2 hj

/-- What happens to queued jobs in a run. -/
structure Departures (pools : PoolKeys) (home : String → String) (events : List StoreEvent) :
    Prop where
  /-- A job that was taken in is in its queue as long as no event dismisses it. -/
  stays : ∀ before e during, before ++ e :: during <+: events → ∀ job,
    (({} : InProcess).run before).Accepts job e →
    (∀ first e' rest, during = first ++ e' :: rest →
      ¬ (({} : InProcess).run (before ++ e :: first)).Dismisses job e') →
    job ∈ (({} : InProcess).run (before ++ e :: during)).queue (home job)
  /-- A job that is dismissed is in no queue, no pool and no table. -/
  leaves : ∀ before e, before ++ [e] <+: events → ∀ job,
    (({} : InProcess).run before).Dismisses job e →
    (({} : InProcess).run (before ++ [e])).Lacks pools job
  /-- The reply to a push names all jobs that were in the queue: as aborted the one that holds a
  slot and stays in front of the new job, and as cancelled the other one. -/
  named : ∀ before job label ttl now,
    before ++ [.call (.push (home job) pools job label ttl) now] <+: events →
    let s := ({} : InProcess).run before
    let reply := (s.push (home job) pools job label ttl now).1
    let queue := (s.push (home job) pools job label ttl now).2.queue (home job)
    reply.duplicate = false →
      (∀ j, reply.cancelled = some j ↔ j ∈ s.queue (home job) ∧ ¬ s.InPool pools.active j) ∧
      (∀ j, reply.aborted = some j ↔ j ∈ s.queue (home job) ∧ s.InPool pools.active j) ∧
      queue = reply.aborted.toList ++ [job] ∧ reply.size = queue.length

/-- However a store is used, as long as each job is used with its own queue, no job leaves its queue
without being named. -/
theorem run_departures (hd : pools.Distinct) {events : List StoreEvent}
    (he : ∀ e ∈ events, e.Respects pools home) : Departures pools home events := by
  have hfollows : ∀ before, before <+: events →
      ∃ lane, (({} : InProcess).run before).Follows pools home lane := by
    intro before hp
    exact Follows.empty.run hd fun e hm => he e (hp.subset hm)
  have hstep : ∀ before e, before ++ [e] <+: events → ∀ job,
      job ∈ (({} : InProcess).run (before ++ [e])).queue (home job) ↔
        (job ∈ (({} : InProcess).run before).queue (home job) ∨
          (({} : InProcess).run before).Accepts job e) ∧
        ¬ (({} : InProcess).run before).Dismisses job e := by
    intro before e hp job
    obtain ⟨lane, h⟩ := hfollows before ((List.prefix_append _ _).trans hp)
    have := mem_queue_apply h hd (he e (hp.subset (by simp))) job
    rwa [run, List.foldl_append]
  constructor
  case stays =>
    intro before e during hp job hacc hkeep
    -- Induction from the end of the run, one event at a time.
    induction during using List.reverseRecOn with
    | nil =>
      obtain ⟨lane, h⟩ := hfollows before ((List.prefix_append _ _).trans hp)
      have hnot := not_dismisses_of_accepts h (he e (hp.subset (by simp))) hacc
      exact (hstep before e hp job).2 ⟨.inr hacc, hnot⟩
    | append_singleton during last ih =>
      have hsplit : before ++ e :: (during ++ [last]) = (before ++ e :: during) ++ [last] := by
        simp
      rw [hsplit] at hp ⊢
      have hmem := ih ((List.prefix_append _ _).trans hp) fun first e' rest heq =>
        hkeep first e' (rest ++ [last]) (by simp [heq])
      exact (hstep _ last hp job).2 ⟨.inl hmem, hkeep during last [] rfl⟩
  case leaves =>
    intro before e hp job hdis
    obtain ⟨lane, h⟩ := hfollows before ((List.prefix_append _ _).trans hp)
    have := lacks_apply h hd (he e (hp.subset (by simp))) hdis
    rwa [run, List.foldl_append]
  case named =>
    intro before job label ttl now hp s reply queue hdup
    obtain ⟨lane, h⟩ := hfollows before ((List.prefix_append _ _).trans hp)
    have hj : job ∉ s.queue (home job) := not_mem_of_push hdup
    exact ⟨h.cancelled_push hj label, h.aborted_push hj label, h.queue_push_home hj label,
      h.size_push hj label⟩

/-- In the hand-over the third push puts out the job of the second. -/
theorem run_departures_handover :
    (({} : InProcess).run ((handover (KeyLayout.mk "builds").pools).take 5)).Lacks
      (KeyLayout.mk "builds").pools "b" := by
  have he : ∀ e ∈ handover (KeyLayout.mk "builds").pools,
      e.Respects (KeyLayout.mk "builds").pools (Function.const String "queue") := by
    simp [handover, StoreEvent.Respects, StoreCall.Respects]
  have h := run_departures (KeyLayout.mk "builds").pools_distinct he
  refine h.leaves ((handover (KeyLayout.mk "builds").pools).take 4)
    (.call (.push "queue" (KeyLayout.mk "builds").pools "c" "#3" 50) 3)
    ⟨[.complete "queue" (KeyLayout.mk "builds").pools "a" 4], rfl⟩ "b" ?_
  show (InProcess.push _ _ _ _ _ _ _).1.cancelled = some "b"
  decide +kernel

end BuildQueue.InProcess
