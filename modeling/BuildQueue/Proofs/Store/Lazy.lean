import BuildQueue.Proofs.Store.Shares

/-!
# Expired statuses that stay

A store may leave an expired status in its map until an operation happens to look at it, and drop it
then (`look`). The operations that read statuses in this way answer like those of `InProcess`, which
never drop any, and what they leave behind holds the same (`Lazy.run_same`). So stores that differ
in expired statuses only cannot be told apart (`Same.apply`).
-/

namespace BuildQueue.InProcess

/-- The live text of a status, whose entry is dropped if it has expired. -/
def look (s : InProcess) (name : String) : Option String × InProcess :=
  match s.statuses[name]? with
  | some (text, expiry) =>
    if expiry ≤ s.clock then (none, { s with statuses := s.statuses.erase name })
    else (some text, s)
  | none => (none, s)

namespace Lazy

def push (s : InProcess) (queue : String) (pools : PoolKeys) (job label : String) (ttl : Nat)
    (now : Int) : PushReply × InProcess :=
  let entries := s.queue queue
  if entries.contains job then
    ({ size := entries.length, cancelled := none, aborted := none, duplicate := true,
       previous := none }, s)
  else
    let (running, waiting) := entries.partition fun e => (s.score? pools.active e).isSome
    let s := waiting.foldl (·.unlist pools ·) s
    let s := s.setQueue queue (running ++ [job])
    let s := (s.setField pools.owners job queue).setField pools.labels job label
    let s := if running.isEmpty then s.join pools.ready job now else s
    let (previous, s) := s.look (pools.status job)
    ({ size := running.length + 1, cancelled := waiting.getLast?, aborted := running.getLast?,
       duplicate := false, previous },
      s.setStatus (pools.status job) QueueState.queued.name ttl)

def admitReady (pools : PoolKeys) (ttl : Nat) (now : Int) (s : InProcess) (capacity : Nat)
    (busy : List String) : List String → StartReply × InProcess
  | [] => (⟨[], []⟩, s)
  | job :: rest =>
    match capacity with
    | 0 => (⟨[], []⟩, s)
    | room + 1 =>
      let owner := s.field? pools.owners job
      let (current, s) := s.look (pools.status job)
      if current ≠ some QueueState.queued.name then
        let s := match owner with
          | some queue => (s.retire queue pools job now).2
          | none => s.leave pools.ready job
        let (reply, s) := admitReady pools ttl now s (room + 1) busy rest
        ({ reply with stale := job :: reply.stale }, s)
      else if busy.contains (owner.getD job) then admitReady pools ttl now s (room + 1) busy rest
      else
        let s := (s.leave pools.ready job).join pools.active job now
        let s := s.setStatus (pools.status job) QueueState.starting.name ttl
        let (reply, s) := admitReady pools ttl now s room (owner.getD job :: busy) rest
        ({ reply with admitted := job :: reply.admitted }, s)

def start (s : InProcess) (pools : PoolKeys) (max ttl : Nat) (now : Int) :
    StartReply × InProcess :=
  let active := s.members pools.active
  admitReady pools ttl now s (max - active.length)
    (active.filterMap fun (job, _) => s.field? pools.owners job)
    ((s.members pools.ready).map Prod.fst)

def swap (s : InProcess) (pools : PoolKeys) (swap : StatusSwap) (ttl : Nat) (now : Int) :
    SwapReply × InProcess :=
  let name := pools.status swap.job
  let (current, s) := s.look name
  if current ≠ some swap.expected then (.rejected current, s)
  else
    let s := s.setStatus name swap.next ttl
    if swap.retire then
      let (held, s) := s.retire swap.queue pools swap.job now
      (.applied held, s)
    else (.applied false, s)

/-- One event, with its reply. -/
def step (s : InProcess) : StoreEvent → StoreReply × InProcess
  | .call (.push queue pools job label ttl) now =>
    let (reply, s) := push s queue pools job label ttl now
    (.push reply, s)
  | .call (.start pools max ttl) now =>
    let (reply, s) := start s pools max ttl now
    (.start reply, s)
  | .call (.swap pools change ttl) now =>
    let (reply, s) := swap s pools change ttl now
    (.swap reply, s)
  | .call (.status name) _ =>
    let (text, s) := s.look name
    (.status text, s)
  | .call (.pool pools which) _ => (.pool (s.entries pools which), s)
  | .complete queue pools job now =>
    let (held, s) := s.retire queue pools job now
    (.complete held, s)
  | .advance ms => (.advance, s.advance ms)

/-- The store after events that happen one after the other. -/
def run (s : InProcess) (events : List StoreEvent) : InProcess :=
  events.foldl (fun s e => (step s e).2) s

/-- The replies to events that happen one after the other. -/
def replies (s : InProcess) : List StoreEvent → List StoreReply
  | [] => []
  | e :: events => (step s e).1 :: replies (step s e).2 events

end Lazy

/-! ## Nobody can tell -/

variable {s t : InProcess}

/-- Whether an expired entry is there makes no difference. -/
theorem Same.look (h : Same s t) (name : String) :
    (s.look name).1 = t.status? name ∧ Same (s.look name).2 t := by
  have hread : (s.look name).1 = s.status? name := by
    unfold InProcess.look InProcess.status?
    cases s.statuses[name]? with
    | none => rfl
    | some entry => dsimp only; split <;> rfl
  refine ⟨hread.trans (h.status? name), ?_⟩
  unfold InProcess.look
  split
  · next text expiry hentry =>
    split
    · next hexpired =>
      refine ⟨h.clock, h.queue, h.score, h.field, fun n => ?_⟩
      rw [← h.live n, live?, live?, Std.TreeMap.getElem?_erase]
      by_cases hn : name = n
      · subst hn
        simp [hentry, Option.filter_some, Nat.not_lt.2 hexpired]
      · simp [hn]
    · exact h
  · exact h

namespace Lazy

theorem push_of_mem {queue : String} (pools : PoolKeys) {job : String} (label : String) (ttl : Nat)
    (now : Int) (hj : job ∈ s.queue queue) :
    push s queue pools job label ttl now =
      (⟨(s.queue queue).length, none, none, true, none⟩, s) := by
  rw [push, if_pos (List.contains_iff_mem.2 hj)]

theorem push_of_not_mem {queue : String} (pools : PoolKeys) {job : String} (label : String)
    (ttl : Nat) (now : Int) (hj : job ∉ s.queue queue) :
    push s queue pools job label ttl now =
      let (previous, t) := (s.enqueued queue pools job label now).look (pools.status job)
      (⟨(s.runningIn queue pools).length + 1, (s.waitingIn queue pools).getLast?,
        (s.runningIn queue pools).getLast?, false, previous⟩,
        t.setStatus (pools.status job) QueueState.queued.name ttl) := by
  have hc : ¬ (s.queue queue).contains job = true := fun e => hj (List.contains_iff_mem.1 e)
  simp only [push, if_neg hc, List.partition_eq_filter_filter, List.isEmpty_iff]
  rfl

end Lazy

namespace Same

variable (h : Same s t)
include h

theorem lazyPush (queue : String) (pools : PoolKeys) (job label : String) (ttl : Nat) (now : Int) :
    (Lazy.push s queue pools job label ttl now).1 = (t.push queue pools job label ttl now).1 ∧
      Same (Lazy.push s queue pools job label ttl now).2
        (t.push queue pools job label ttl now).2 := by
  have hqueue := h.queue queue
  by_cases hj : job ∈ s.queue queue
  · rw [Lazy.push_of_mem pools label ttl now hj,
      t.push_of_mem pools label ttl now (hqueue ▸ hj), hqueue]
    exact ⟨rfl, h⟩
  · obtain ⟨hprevious, hlook⟩ := (h.enqueued queue pools job label now).look (pools.status job)
    rw [Lazy.push_of_not_mem pools label ttl now hj,
      t.push_of_not_mem pools label ttl now (hqueue ▸ hj),
      ← h.runningIn queue pools, ← h.waitingIn queue pools]
    rw [status?_enqueued] at hprevious
    dsimp only
    exact ⟨by rw [hprevious], hlook.setStatus _ _ _⟩

theorem lazyAdmitReady (pools : PoolKeys) (ttl : Nat) (now : Int) (capacity : Nat)
    (busy jobs : List String) :
    (Lazy.admitReady pools ttl now s capacity busy jobs).1 =
        (InProcess.admitReady pools ttl now t capacity busy jobs).1 ∧
      Same (Lazy.admitReady pools ttl now s capacity busy jobs).2
        (InProcess.admitReady pools ttl now t capacity busy jobs).2 := by
  induction jobs generalizing s t capacity busy with
  | nil => exact ⟨rfl, h⟩
  | cons job rest ih =>
    cases capacity with
    | zero => exact ⟨rfl, h⟩
    | succ room =>
      obtain ⟨hcurrent, hlook⟩ := h.look (pools.status job)
      rw [Lazy.admitReady, InProcess.admitReady, h.field]
      dsimp only
      rw [hcurrent]
      split
      · cases t.field? pools.owners job with
        | none =>
          obtain ⟨hreply, hstore⟩ := ih (hlook.leave pools.ready job) (room + 1) busy
          exact ⟨by rw [hreply], hstore⟩
        | some queue =>
          obtain ⟨hreply, hstore⟩ := ih (hlook.retire queue pools job now).2 (room + 1) busy
          exact ⟨by rw [hreply], hstore⟩
      · split
        · exact ih hlook _ _
        · obtain ⟨hreply, hstore⟩ := ih (hlook.admitted pools job ttl now) room
            ((t.field? pools.owners job).getD job :: busy)
          exact ⟨congrArg (fun r : StartReply => { r with admitted := job :: r.admitted }) hreply,
            hstore⟩

theorem lazySwap (pools : PoolKeys) (change : StatusSwap) (ttl : Nat) (now : Int) :
    (Lazy.swap s pools change ttl now).1 = (t.swap pools change ttl now).1 ∧
      Same (Lazy.swap s pools change ttl now).2 (t.swap pools change ttl now).2 := by
  obtain ⟨hcurrent, hlook⟩ := h.look (pools.status change.job)
  have hset := hlook.setStatus (pools.status change.job) change.next ttl
  unfold Lazy.swap InProcess.swap
  dsimp only
  rw [hcurrent]
  split
  · exact ⟨rfl, hlook⟩
  · split
    · obtain ⟨hheld, hstore⟩ := hset.retire change.queue pools change.job now
      exact ⟨congrArg SwapReply.applied hheld, hstore⟩
    · exact ⟨rfl, hset⟩

/-- A store that drops expired statuses as it looks answers like one that does not, and holds the
same afterwards. -/
theorem lazyStep (e : StoreEvent) :
    (Lazy.step s e).1 = t.reply e ∧ Same (Lazy.step s e).2 (t.apply e) := by
  cases e with
  | call c now =>
    cases c with
    | push queue pools job label ttl =>
      obtain ⟨hreply, hstore⟩ := h.lazyPush queue pools job label ttl now
      exact ⟨congrArg StoreReply.push hreply, hstore⟩
    | start pools max ttl =>
      have hwalk := h.lazyAdmitReady pools ttl now (max - (t.members pools.active).length)
        ((t.members pools.active).filterMap fun (job, _) => t.field? pools.owners job)
        ((t.members pools.ready).map Prod.fst)
      simp only [Lazy.step, Lazy.start, reply, perform, InProcess.start, h.members, h.field]
      exact ⟨congrArg StoreReply.start hwalk.1, hwalk.2⟩
    | swap pools change ttl =>
      obtain ⟨hreply, hstore⟩ := h.lazySwap pools change ttl now
      exact ⟨congrArg StoreReply.swap hreply, hstore⟩
    | status name =>
      obtain ⟨htext, hstore⟩ := h.look name
      exact ⟨congrArg StoreReply.status htext, hstore⟩
    | pool pools which => exact ⟨congrArg StoreReply.pool (h.entries pools which), h⟩
  | complete queue pools job now =>
    obtain ⟨hheld, hstore⟩ := h.retire queue pools job now
    exact ⟨congrArg StoreReply.complete hheld, hstore⟩
  | advance ms => exact ⟨rfl, h.advance ms⟩

/-- Stores that hold the same answer alike, and hold the same afterwards. -/
theorem apply (e : StoreEvent) : s.reply e = t.reply e ∧ Same (s.apply e) (t.apply e) := by
  obtain ⟨hreply, hstore⟩ := (Same.refl s).lazyStep e
  obtain ⟨hreply', hstore'⟩ := h.lazyStep e
  exact ⟨hreply.symm.trans hreply', hstore.symm.trans hstore'⟩

theorem replies (events : List StoreEvent) : s.replies events = t.replies events := by
  induction events generalizing s t with
  | nil => rfl
  | cons e events ih =>
    obtain ⟨hreply, hstore⟩ := h.apply e
    rw [InProcess.replies, InProcess.replies, hreply, ih hstore]

end Same

namespace Lazy

/-- A run gets the same replies and leaves the same behind, whether it drops expired statuses or
not. -/
theorem run_same (h : Same s t) (events : List StoreEvent) :
    replies s events = t.replies events ∧ Same (run s events) (t.run events) := by
  induction events generalizing s t with
  | nil => exact ⟨rfl, h⟩
  | cons e events ih =>
    obtain ⟨hreply, hstore⟩ := h.lazyStep e
    obtain ⟨hreplies, hrun⟩ := ih hstore
    exact ⟨by rw [replies, InProcess.replies, hreply, hreplies], hrun⟩

end Lazy

end BuildQueue.InProcess
