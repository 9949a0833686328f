import BuildQueue.Proofs.Store.Bounds
import BuildQueue.Proofs.Store.Replies

/-!
# Two stores that are one

The same events, done to the database through its client and to the store in memory, get the same
replies and leave the same queues, pools, tables and statuses (`Shared.run_alike`). The database
knows whole seconds only, so the store in memory is given the times to live that the client cuts to
(`StoreEvent.whole`). One event keeps the database a mirror of the store (`Mirrors.apply`).
-/

namespace BuildQueue

/-- What a store answers to an event. -/
inductive StoreReply where
  | push (r : PushReply)
  | start (r : StartReply)
  | swap (r : SwapReply)
  | status (text : Option String)
  | pool (entries : List PoolEntry)
  | complete (wasActive : Bool)
  | advance
  deriving DecidableEq, Repr

namespace StoreReply

def ofAnswer : (c : StoreCall) → c.Answer → StoreReply
  | .push .., r => push r
  | .start .., r => start r
  | .swap .., r => swap r
  | .status _, text => status text
  | .pool .., entries => pool entries

/-- The reply, where an empty text counts as missing if it stands for a job or an earlier status. -/
def plain : StoreReply → StoreReply
  | push r => push r.plain
  | swap r => swap r.plain
  | r => r

end StoreReply

/-- The time that the database lets a status live. -/
def Shared.wholeTtl (ttl : Nat) : Nat := seconds ttl * 1000

def StoreCall.whole : StoreCall → StoreCall
  | .push queue pools job label ttl => .push queue pools job label (Shared.wholeTtl ttl)
  | .start pools max ttl => .start pools max (Shared.wholeTtl ttl)
  | .swap pools change ttl => .swap pools change (Shared.wholeTtl ttl)
  | c => c

/-- The event with whole seconds for a time to live. -/
def StoreEvent.whole : StoreEvent → StoreEvent
  | .call c now => .call c.whole now
  | e => e

theorem StoreEvent.Ordinary.whole {slots : String → Prop} {e : StoreEvent}
    (h : e.Ordinary slots) : e.whole.Ordinary slots := by
  cases e with
  | call c now => cases c <;> exact h
  | complete queue pools job now => exact h
  | advance ms => exact h

namespace InProcess

def reply (s : InProcess) : StoreEvent → StoreReply
  | .call c now => .ofAnswer c (s.perform now c).1
  | .complete queue pools job now => .complete (s.retire queue pools job now).1
  | .advance _ => .advance

/-- The replies to events that happen one after the other. -/
def replies (s : InProcess) : List StoreEvent → List StoreReply
  | [] => []
  | e :: events => s.reply e :: (s.apply e).replies events

end InProcess

namespace Shared

def reply (s : Shared) : StoreEvent → Except SchedulerError StoreReply
  | .call c now => (s.perform now c).1.map (.ofAnswer c)
  | .complete queue pools job now => (s.complete queue pools job now).1.map .complete
  | .advance _ => .ok .advance

def apply (s : Shared) : StoreEvent → Shared
  | .call c now => (s.perform now c).2
  | .complete queue pools job now => (s.complete queue pools job now).2
  | .advance ms => { s with database := s.database.advance ms }

def run (s : Shared) (events : List StoreEvent) : Shared := events.foldl apply s

def replies (s : Shared) : List StoreEvent → List (Except SchedulerError StoreReply)
  | [] => []
  | e :: events => s.reply e :: (s.apply e).replies events

end Shared

/-- Whoever looks at the database and at the store sees the same. -/
structure Alike (d : Database) (s : InProcess) : Prop where
  queue : ∀ q, d.lrange q = s.queue q
  pool : ∀ pool, d.zrange pool = s.members pool
  field : ∀ table job, d.hget table job = s.field? table job
  status : ∀ name, d.get name = s.status? name

namespace Mirrors

variable {d : Database} {s : InProcess} {slots : String → Prop}

theorem alike (h : Mirrors d s) : Alike d s := ⟨h.queue, h.zrange, h.field, h.get⟩

theorem readMembers_members (hb : s.Bounded slots) (pool : String) :
    Shared.readMembers (.array ((s.members pool).flatMap
      fun (job, score) => [.bulk job, .int score])) = .ok (s.members pool) :=
  Shared.readMembers_scored fun m hm => hb.since pool m.1 m.2 (s.mem_members.1 hm)

theorem readLabels_members (pools : PoolKeys) (members : List (String × Int)) :
    Shared.readLabels (.array (members.map
      fun (job, _) => Shared.optionalText (s.field? pools.labels job))) =
        .ok (members.map fun (job, _) => s.field? pools.labels job) := by
  rw [← Shared.readLabels_optionalText, List.map_map]
  rfl

/-- A reply about a pool is read as it was meant, because the times in it are small. -/
theorem reply_pool (h : Mirrors d s) (hb : s.Bounded slots) (pools : PoolKeys) (which : Pool) :
    (Shared.mk d none).pool pools which = (.ok (s.entries pools which), ⟨d, none⟩) := by
  unfold Shared.pool InProcess.entries
  simp only [Shared.send, Shared.forced?, h.zrange, readMembers_members hb]
  generalize s.members _ = members
  cases members with
  | nil => rfl
  | cons m members =>
    simp only [h.field, readLabels_members, Except.map, Shared.entries_map]

/-- One event gets the same reply and leaves the database a mirror of the store. -/
theorem apply (h : Mirrors d s) (hb : s.Bounded slots) {e : StoreEvent} (he : e.Ordinary slots) :
    (Shared.mk d none).reply e = .ok (s.reply e.whole).plain ∧
      ∃ d', (Shared.mk d none).apply e = ⟨d', none⟩ ∧ Mirrors d' (s.apply e.whole) := by
  cases e with
  | call c now =>
    cases c with
    | push queue pools job label ttl =>
      obtain ⟨ht, hm⟩ := h.push he.1.1.ready_ne_active (hb.named queue) job label now
        (Shared.seconds ttl)
      have hsize : (s.push queue pools job label (Shared.wholeTtl ttl) now).1.size <
          UInt64.size :=
        Nat.lt_of_le_of_lt (hb.size_push_le he.1.1 queue job label _ now) (by decide)
      have hr := Shared.readPush_texts hsize
      rw [Shared.wholeTtl, ← ht] at hr
      exact ⟨congrArg (Except.map StoreReply.push) hr, _, rfl, hm⟩
    | start pools limit ttl =>
      obtain ⟨ht, hm⟩ := h.start pools limit now (Shared.seconds ttl)
      have hr := Shared.readStart_texts (Script.start pools limit now (Shared.seconds ttl) d).1.1
        (Script.start pools limit now (Shared.seconds ttl) d).1.2
      refine ⟨(congrArg (Except.map StoreReply.start) hr).trans ?_, _, rfl, hm⟩
      rw [ht]
      rfl
    | swap pools change ttl =>
      obtain ⟨ht, hm⟩ := h.swap pools change (Shared.seconds ttl) now
      have hr := Shared.readSwap_texts (s.swap pools change (Shared.wholeTtl ttl) now).1
      rw [Shared.wholeTtl, ← ht] at hr
      exact ⟨congrArg (Except.map StoreReply.swap) hr, _, rfl, hm⟩
    | status name =>
      have hr := Shared.readStatus_optionalText (d.get name)
      refine ⟨(congrArg (Except.map StoreReply.status) hr).trans ?_, _, rfl, h⟩
      rw [h.get]
      rfl
    | pool pools which =>
      have hr := h.reply_pool hb pools which
      exact ⟨congrArg (Except.map StoreReply.pool) (congrArg Prod.fst hr), d,
        congrArg Prod.snd hr, h⟩
  | complete queue pools job now =>
    obtain ⟨hfound, hm⟩ := h.retire queue pools job now
    have hr := Shared.readComplete_toNat (s.retire queue pools job now).1
    rw [← hfound] at hr
    exact ⟨congrArg (Except.map StoreReply.complete) hr, _, rfl, hm⟩
  | advance ms => exact ⟨rfl, _, rfl, h.advance ms⟩

theorem replies (h : Mirrors d s) (hb : s.Bounded slots) {events : List StoreEvent}
    (he : ∀ e ∈ events, e.Ordinary slots) : (Shared.mk d none).replies events =
      (s.replies (events.map StoreEvent.whole)).map fun r => .ok r.plain := by
  induction events generalizing d s with
  | nil => rfl
  | cons e events ih =>
    have hfirst := he e List.mem_cons_self
    obtain ⟨hr, d', hd, hm⟩ := h.apply hb hfirst
    rw [Shared.replies, hr, hd,
      ih hm (hb.apply hfirst.whole) fun e' he' => he e' (List.mem_cons_of_mem _ he')]
    rfl

theorem run (h : Mirrors d s) (hb : s.Bounded slots) {events : List StoreEvent}
    (he : ∀ e ∈ events, e.Ordinary slots) :
    ∃ d', (Shared.mk d none).run events = ⟨d', none⟩ ∧
      Mirrors d' (s.run (events.map StoreEvent.whole)) := by
  induction events generalizing d s with
  | nil => exact ⟨d, rfl, h⟩
  | cons e events ih =>
    have hfirst := he e List.mem_cons_self
    obtain ⟨-, d', hd, hm⟩ := h.apply hb hfirst
    obtain ⟨d'', hrun, hm'⟩ :=
      ih hm (hb.apply hfirst.whole) fun e' he' => he e' (List.mem_cons_of_mem _ he')
    refine ⟨d'', ?_, hm'⟩
    rw [Shared.run, List.foldl_cons, hd]
    exact hrun

end Mirrors

/-- The database and the store in memory cannot be told apart: they reply alike to everything, and
after each event they hold the same. -/
theorem Shared.run_alike {slots : String → Prop} {events : List StoreEvent}
    (he : ∀ e ∈ events, e.Ordinary slots) :
    ({} : Shared).replies events =
        (({} : InProcess).replies (events.map StoreEvent.whole)).map (fun r => .ok r.plain) ∧
      ∀ n, Alike (({} : Shared).run (events.take n)).database
        (({} : InProcess).run ((events.take n).map StoreEvent.whole)) := by
  refine ⟨Mirrors.empty.replies (.empty slots) he, fun n => ?_⟩
  obtain ⟨d, hd, hm⟩ := Mirrors.empty.run (.empty slots)
    fun e h => he e (List.mem_of_mem_take h)
  change ({} : Shared).run (events.take n) = _ at hd
  rw [hd]
  exact hm.alike

/-- A job is pushed to two queues and gets a slot; it is superseded in one of them, and the status
of the new job expires, so that a start drops it. -/
def inTwoQueues (pools : PoolKeys) : List StoreEvent :=
  [.call (.push "main" pools "a" "#1" 2500) 7, .call (.push "side" pools "a" "#2" 2500) 8,
    .call (.start pools 2 900) 9, .call (.push "side" pools "b" "#3" 10) 10, .advance 1000,
    .call (.swap pools ⟨"b", "side", "QUEUED", "STARTING", false⟩ 10) 11,
    .complete "side" pools "a" 12, .call (.start pools 2 900) 13,
    .call (.pool pools .active) 14, .call (.status (pools.status "a")) 15]

theorem Shared.run_alike_inTwoQueues :
    ({} : Shared).replies (inTwoQueues (KeyLayout.mk "builds").pools) =
        (({} : InProcess).replies
          ((inTwoQueues (KeyLayout.mk "builds").pools).map StoreEvent.whole)).map
            (fun r => .ok r.plain) ∧
      ({} : InProcess).replies
          ((inTwoQueues (KeyLayout.mk "builds").pools).map StoreEvent.whole) =
        [.push ⟨1, none, none, false, none⟩, .push ⟨1, none, none, false, some "QUEUED"⟩,
          .start ⟨["a"], []⟩, .push ⟨2, none, some "a", false, none⟩, .advance,
          .swap (.rejected none), .complete true, .start ⟨[], ["b"]⟩, .pool [], .status none] := by
  have hp : (KeyLayout.mk "builds").pools.Apart (· = "builds:active") :=
    ⟨(KeyLayout.mk "builds").pools_distinct, by decide, by decide⟩
  have he : ∀ e ∈ inTwoQueues (KeyLayout.mk "builds").pools, e.Ordinary (· = "builds:active") := by
    simp [inTwoQueues, StoreEvent.Ordinary, StoreCall.Ordinary, hp, wholeBound]
  exact ⟨(run_alike he).1, by decide +kernel⟩

end BuildQueue
