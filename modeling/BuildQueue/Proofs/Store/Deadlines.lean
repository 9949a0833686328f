import BuildQueue.Proofs.Store.Lazy
import Mathlib.Data.List.Induction

/-!
# How long a status lives

The text of a status that an operation sees is the one that was written last, if the time that it
was to live for has not passed since then, and there is none otherwise (`Lazy.run_exact`). Which
texts were written, and when, is told by the events and their replies alone (`LastWrite`). It makes
no difference which of the expired statuses are still in the map, because an operation that writes
no status leaves it to the same deadline (`live?_step`).
-/

namespace BuildQueue

/-- The time that an event takes. -/
def StoreEvent.ms : StoreEvent → Nat
  | .advance ms => ms
  | _ => 0

/-- An event and the reply that it got. -/
structure StoreExchange where
  event : StoreEvent
  reply : StoreReply

/-- The text that was written to a status: by a push that was no duplicate, by a start that admitted
the job, or by a swap that was applied. -/
def StoreExchange.text? (x : StoreExchange) (name : String) : Option String :=
  match x.event, x.reply with
  | .call (.push _ pools job _ _) _, .push r =>
    if name = pools.status job ∧ r.duplicate = false then some QueueState.queued.name else none
  | .call (.start pools _ _) _, .start r =>
    if ∃ job ∈ r.admitted, name = pools.status job then some QueueState.starting.name else none
  | .call (.swap pools change _) _, .swap (.applied _) =>
    if name = pools.status change.job then some change.next else none
  | _, _ => none

/-- No time passes while a status is written. -/
theorem StoreExchange.ms_of_text? {x : StoreExchange} {name text : String}
    (h : x.text? name = some text) : x.event.ms = 0 := by
  obtain ⟨e, r⟩ := x
  cases e with
  | advance ms => cases h
  | call c now => rfl
  | complete queue pools job now => rfl

/-- The time that has passed. -/
def elapsed : List StoreExchange → Nat
  | [] => 0
  | x :: xs => x.event.ms + elapsed xs

/-- What was written last to the status is `text`, at the time `written`, to live for `ttl`. -/
def LastWrite (xs : List StoreExchange) (name text : String) (written ttl : Nat) : Prop :=
  ∃ before x after, xs = before ++ x :: after ∧ x.text? name = some text ∧
    written = elapsed before ∧ ttl = x.event.ttl ∧ ∀ y ∈ after, y.text? name = none

theorem elapsed_append (xs : List StoreExchange) (x : StoreExchange) :
    elapsed (xs ++ [x]) = elapsed xs + x.event.ms := by
  induction xs with
  | nil => exact Nat.add_comm _ _
  | cons y xs ih => rw [List.cons_append, elapsed, elapsed, ih, Nat.add_assoc]

theorem lastWrite_append {xs : List StoreExchange} {x : StoreExchange} {name text : String}
    {written ttl : Nat} : LastWrite (xs ++ [x]) name text written ttl ↔
      (x.text? name = some text ∧ written = elapsed xs ∧ ttl = x.event.ttl) ∨
        (x.text? name = none ∧ LastWrite xs name text written ttl) := by
  constructor
  · rintro ⟨before, y, after, hxs, htext, hw, ht, hafter⟩
    cases after using List.reverseRecOn with
    | nil =>
      obtain ⟨rfl, hy⟩ := List.append_inj' hxs rfl
      obtain rfl := List.singleton_inj.1 hy
      exact .inl ⟨htext, hw, ht⟩
    | append_singleton after z =>
      rw [← List.cons_append, ← List.append_assoc] at hxs
      obtain ⟨rfl, hz⟩ := List.append_inj' hxs rfl
      obtain rfl := List.singleton_inj.1 hz
      exact .inr ⟨hafter x (by simp), before, y, after, rfl, htext, hw, ht,
        fun y hy => hafter y (List.mem_append_left _ hy)⟩
  · rintro (⟨htext, hw, ht⟩ | ⟨hnone, before, y, after, rfl, htext, hw, ht, hafter⟩)
    · exact ⟨xs, x, [], rfl, htext, hw, ht, fun y hy => by cases hy⟩
    · refine ⟨before, y, after ++ [x], by simp, htext, hw, ht, fun z hz => ?_⟩
      rcases List.mem_append.1 hz with hz | hz
      · exact hafter z hz
      · rwa [List.mem_singleton.1 hz]

namespace InProcess

/-! ## One event -/

section Clock

variable (s : InProcess)

theorem clock_admitReady (pools : PoolKeys) (ttl : Nat) (now : Int) (capacity : Nat)
    (busy jobs : List String) :
    (admitReady pools ttl now s capacity busy jobs).2.clock = s.clock := by
  induction jobs generalizing s capacity busy with
  | nil => rfl
  | cons job rest ih =>
    cases capacity with
    | zero => rfl
    | succ room =>
      rw [admitReady]
      split
      · split
        · exact (ih _ _ _).trans (clock_retire _ _ _ _ _)
        · exact ih _ _ _
      · split
        · exact ih _ _ _
        · exact ih _ _ _

theorem clock_apply (e : StoreEvent) : (s.apply e).clock = s.clock + e.ms := by
  cases e with
  | call c now =>
    cases c with
    | push queue pools job label ttl =>
      by_cases hj : job ∈ s.queue queue
      · simp only [apply, perform, s.push_of_mem _ _ _ _ hj]
        rfl
      · simp only [apply, perform, s.push_of_not_mem _ _ _ _ hj]
        exact s.clock_enqueued _ _ _ _ _
    | start pools max ttl => exact s.clock_admitReady _ _ _ _ _ _
    | swap pools change ttl =>
      unfold apply perform swap
      dsimp only
      split
      · rfl
      · split
        · exact clock_retire _ _ _ _ _
        · rfl
    | status name => rfl
    | pool pools which => rfl
  | complete queue pools job now => exact s.clock_retire _ _ _ _
  | advance ms => rfl

theorem clock_step (e : StoreEvent) : (Lazy.step s e).2.clock = s.clock + e.ms :=
  ((Same.refl s).lazyStep e).2.clock.trans (s.clock_apply e)

end Clock

variable {s : InProcess}

theorem text?_reply (s : InProcess) (e : StoreEvent) (name : String) :
    (StoreExchange.mk e (s.reply e)).text? name = (s.write? e name).map StatusWrite.text := by
  cases e with
  | call c now =>
    cases c with
    | push queue pools job label ttl =>
      simp only [StoreExchange.text?, reply, StoreReply.ofAnswer, perform, write?]
      split <;> rfl
    | start pools max ttl =>
      simp only [StoreExchange.text?, reply, StoreReply.ofAnswer, perform, write?]
      split <;> rfl
    | swap pools change ttl =>
      simp only [StoreExchange.text?, reply, StoreReply.ofAnswer, perform, write?]
      cases (s.swap pools change ttl now).1 with
      | applied held =>
        dsimp only
        split <;> rfl
      | rejected current => rfl
    | status name => rfl
    | pool pools which => rfl
  | complete queue pools job now => rfl
  | advance ms => rfl

/-- What is live after an event is what it has written, if it was to live at all; or else what was
live before, unless its time has come meanwhile. -/
theorem live?_step (s : InProcess) (e : StoreEvent) (name : String) :
    (Lazy.step s e).2.live? name =
      match (StoreExchange.mk e (Lazy.step s e).1).text? name with
      | some text => if e.ttl = 0 then none else some (text, s.clock + e.ttl)
      | none => (s.live? name).filter (s.clock + e.ms < ·.2) := by
  obtain ⟨hreply, hstore⟩ := (Same.refl s).lazyStep e
  rw [hstore.live, hreply, live?, statuses_apply, clock_apply]
  have htext := s.text?_reply e name
  cases hw : s.write? e name with
  | some w =>
    rw [hw, Option.map_some] at htext
    have hms : e.ms = 0 := StoreExchange.ms_of_text? htext
    rw [htext, hms]
    dsimp only
    by_cases ht : e.ttl = 0
    · simp [ht, Option.filter_some]
    · simp [ht, Option.filter_some, Nat.pos_of_ne_zero ht]
  | none =>
    rw [hw, Option.map_none] at htext
    rw [htext]
    dsimp only
    rw [live?, Option.filter_filter]
    congr 1
    funext entry
    rw [Bool.eq_iff_iff, Bool.and_eq_true, decide_eq_true_iff, decide_eq_true_iff]
    omega

/-! ## A run -/

/-- The events with the replies that they get. -/
def Lazy.transcript (s : InProcess) : List StoreEvent → List StoreExchange
  | [] => []
  | e :: events => ⟨e, (step s e).1⟩ :: transcript (step s e).2 events

/-- The live statuses are those that were written last and whose time has not come. -/
structure Dated (s : InProcess) (xs : List StoreExchange) : Prop where
  clock : s.clock = elapsed xs
  live : ∀ name text expiry, s.live? name = some (text, expiry) ↔
    ∃ written ttl, LastWrite xs name text written ttl ∧ expiry = written + ttl ∧
      elapsed xs < expiry

namespace Dated

variable {xs : List StoreExchange}

theorem empty : Dated {} [] where
  clock := rfl
  live name text expiry := by
    simp [live?, LastWrite]

theorem step (h : Dated s xs) (e : StoreEvent) :
    Dated (Lazy.step s e).2 (xs ++ [⟨e, (Lazy.step s e).1⟩]) where
  clock := by
    rw [elapsed_append, clock_step, h.clock]
  live name text expiry := by
    rw [live?_step]
    simp only [lastWrite_append, elapsed_append]
    cases hx : (StoreExchange.mk e (Lazy.step s e).1).text? name with
    | some last =>
      have hms : e.ms = 0 := StoreExchange.ms_of_text? hx
      simp only [hms, h.clock, Option.some.injEq, reduceCtorEq, false_and, or_false]
      by_cases ht : e.ttl = 0
      · rw [if_pos ht]
        constructor
        · rintro ⟨⟩
        · rintro ⟨w, d, ⟨-, rfl, rfl⟩, rfl, hlt⟩
          omega
      · rw [if_neg ht]
        constructor
        · rintro ⟨⟩
          exact ⟨_, _, ⟨rfl, rfl, rfl⟩, rfl, by omega⟩
        · rintro ⟨w, d, ⟨rfl, rfl, rfl⟩, rfl, -⟩
          rfl
    | none =>
      simp only [Option.filter_eq_some_iff, h.live, h.clock, decide_eq_true_eq, reduceCtorEq,
        false_and, true_and, false_or]
      constructor
      · rintro ⟨⟨w, d, hlast, rfl, -⟩, hlt⟩
        exact ⟨w, d, hlast, rfl, hlt⟩
      · rintro ⟨w, d, hlast, rfl, hlt⟩
        exact ⟨⟨w, d, hlast, rfl, by omega⟩, hlt⟩

theorem run (h : Dated s xs) (events : List StoreEvent) :
    Dated (Lazy.run s events) (xs ++ Lazy.transcript s events) := by
  induction events generalizing s xs with
  | nil =>
    rw [Lazy.transcript, List.append_nil]
    exact h
  | cons e events ih =>
    have hrest := ih (h.step e)
    rwa [List.append_assoc] at hrest

end Dated

/-! ## A start -/

/-- A start has tested ready jobs from the front until it had admitted as many as it may. It has
dropped those that do not wait, and admitted none of them. -/
def Tests (waits : String → Bool) (capacity : Nat) (jobs : List String) (r : StartReply) : Prop :=
  ∃ tested, tested <+: jobs ∧ r.stale = tested.filter (!waits ·) ∧
    r.admitted.Sublist (tested.filter waits) ∧ (tested = jobs ∨ r.admitted.length = capacity)

namespace Tests

variable {waits waits' : String → Bool} {capacity : Nat} {job : String} {rest : List String}
  {r : StartReply}

theorem congr (h : Tests waits capacity rest r) (hw : ∀ j ∈ rest, waits j = waits' j) :
    Tests waits' capacity rest r := by
  obtain ⟨tested, hp, hs, ha, hend⟩ := h
  have htested : ∀ j ∈ tested, waits j = waits' j := fun j hj => hw j (hp.subset hj)
  refine ⟨tested, hp, hs.trans (List.filter_congr fun j hj => by rw [htested j hj]), ?_, hend⟩
  rwa [← List.filter_congr htested]

theorem stale (h : Tests waits capacity rest r) (hjob : waits job = false) :
    Tests waits capacity (job :: rest) { r with stale := job :: r.stale } := by
  obtain ⟨tested, hp, hs, ha, hend⟩ := h
  refine ⟨job :: tested, (List.prefix_cons_inj job).2 hp, ?_, ?_, hend.imp_left (congrArg _)⟩
  · simp [hjob, hs]
  · simpa [hjob] using ha

theorem skip (h : Tests waits capacity rest r) (hjob : waits job = true) :
    Tests waits capacity (job :: rest) r := by
  obtain ⟨tested, hp, hs, ha, hend⟩ := h
  refine ⟨job :: tested, (List.prefix_cons_inj job).2 hp, ?_, ?_, hend.imp_left (congrArg _)⟩
  · simpa [hjob] using hs
  · rw [List.filter_cons_of_pos hjob]
    exact ha.cons job

theorem enter (h : Tests waits capacity rest r) (hjob : waits job = true) :
    Tests waits (capacity + 1) (job :: rest) { r with admitted := job :: r.admitted } := by
  obtain ⟨tested, hp, hs, ha, hend⟩ := h
  refine ⟨job :: tested, (List.prefix_cons_inj job).2 hp, ?_, ?_,
    hend.imp (congrArg _) (congrArg (· + 1))⟩
  · simpa [hjob] using hs
  · rw [List.filter_cons_of_pos hjob]
    exact ha.cons_cons job

/-- None of the jobs that were dropped was admitted. -/
theorem not_admitted (h : Tests waits capacity rest r) (hjob : job ∈ r.stale) :
    job ∉ r.admitted := by
  obtain ⟨tested, -, hs, ha, -⟩ := h
  rw [hs] at hjob
  intro hadmitted
  have hwaits := (List.mem_filter.1 (ha.subset hadmitted)).2
  simp [hwaits] at hjob

end Tests

/-- The job waits, as far as its status goes. -/
def waits (s : InProcess) (pools : PoolKeys) (job : String) : Bool :=
  (s.look (pools.status job)).1 = some QueueState.queued.name

theorem look_fst (s : InProcess) (name : String) : (s.look name).1 = s.status? name :=
  ((Same.refl s).look name).1

theorem tests_admitReady (pools : PoolKeys) (ttl : Nat) (now : Int) {jobs : List String}
    (hn : jobs.Nodup) (s : InProcess) (capacity : Nat) (busy : List String) :
    Tests (s.waits pools) capacity jobs
      (admitReady pools ttl now s capacity busy jobs).1 := by
  induction jobs generalizing s capacity busy with
  | nil => exact ⟨[], List.prefix_rfl, rfl, .slnil, .inl rfl⟩
  | cons job rest ih =>
    cases capacity with
    | zero => exact ⟨[], List.nil_prefix, rfl, .slnil, .inr rfl⟩
    | succ room =>
      obtain ⟨hjob, hrest⟩ := List.nodup_cons.1 hn
      have hlater : ∀ t : InProcess, (∀ j ∈ rest, t.status? (pools.status j) =
          s.status? (pools.status j)) → ∀ j ∈ rest, t.waits pools j = s.waits pools j :=
        fun t h j hj => by simp only [waits, look_fst, h j hj]
      have hwaits : s.waits pools job = decide (s.status? (pools.status job) =
          some QueueState.queued.name) := by simp only [waits, look_fst]
      rw [admitReady]
      split
      · next hstale =>
        have hfalse : s.waits pools job = false := hwaits.trans (decide_eq_false hstale)
        split
        · next queue _ =>
          refine Tests.stale ((ih hrest _ _ _).congr (hlater _ fun j _ => ?_)) hfalse
          rw [status?_retire]
        · exact Tests.stale ((ih hrest _ _ _).congr (hlater _ fun j _ => rfl)) hfalse
      · next hqueued =>
        have htrue : s.waits pools job = true := hwaits.trans (decide_eq_true (not_not.1 hqueued))
        split
        · exact (ih hrest _ _ _).skip htrue
        · refine Tests.enter ((ih hrest _ _ _).congr (hlater _ fun j hj => ?_)) htrue
          have hne : j ≠ job := fun e => hjob (e ▸ hj)
          rw [status?_setStatus_of_ne _ _ hne]
          rfl

theorem tests_start (s : InProcess) (pools : PoolKeys) (max ttl : Nat) (now : Int) :
    Tests (s.waits pools) (max - (s.members pools.active).length)
      ((s.members pools.ready).map Prod.fst) (Lazy.start s pools max ttl now).1 := by
  dsimp only [Lazy.start]
  rw [((Same.refl s).lazyAdmitReady pools ttl now _ _ _).1]
  exact tests_admitReady pools ttl now (s.nodup_map_members pools.ready) s _ _

/-! ## What operations see -/

/-- Each operation finds of a status what `seen` says. -/
structure Sees (s : InProcess) (seen : String → Option String) : Prop where
  status : ∀ name now, (Lazy.step s (.call (.status name) now)).1 = .status (seen name)
  previous : ∀ queue pools job label ttl now, job ∉ s.queue queue →
    (Lazy.push s queue pools job label ttl now).1.previous = seen (pools.status job)
  applied : ∀ pools (change : StatusSwap) ttl now,
    seen (pools.status change.job) = some change.expected →
      ∃ held, (Lazy.swap s pools change ttl now).1 = .applied held
  rejected : ∀ pools (change : StatusSwap) ttl now,
    seen (pools.status change.job) ≠ some change.expected →
      (Lazy.swap s pools change ttl now).1 = .rejected (seen (pools.status change.job))
  start : ∀ pools max ttl now,
    Tests (fun job => seen (pools.status job) = some QueueState.queued.name)
      (max - (s.members pools.active).length) ((s.members pools.ready).map Prod.fst)
      (Lazy.start s pools max ttl now).1

theorem sees_look (s : InProcess) : s.Sees fun name => (s.look name).1 where
  status name now := rfl
  previous queue pools job label ttl now hj := by
    rw [Lazy.push_of_not_mem pools label ttl now hj]
    show (look _ _).1 = _
    rw [look_fst, look_fst, status?_enqueued]
  applied pools change ttl now hseen := by
    rw [Lazy.swap]
    dsimp only
    rw [if_neg (not_not_intro hseen)]
    split
    · exact ⟨_, rfl⟩
    · exact ⟨_, rfl⟩
  rejected pools change ttl now hseen := by
    rw [Lazy.swap]
    dsimp only
    rw [if_pos hseen]
  start := s.tests_start

/-- An event that does not write a status leaves it as it is: whenever one looks afterwards, one
finds what one would have found if nothing but time had passed. Such are the events that evict the
job, and those that drop it because it does not wait. -/
structure Spares (s : InProcess) : Prop where
  later : ∀ e name, (StoreExchange.mk e (Lazy.step s e).1).text? name = none → ∀ ms,
    (((Lazy.step s e).2.advance ms).look name).1 = ((s.advance (e.ms + ms)).look name).1
  evicted : ∀ queue pools job label ttl now, ∀ other ∈ s.queue queue,
    let e := StoreEvent.call (.push queue pools job label ttl) now
    (StoreExchange.mk e (Lazy.step s e).1).text? (pools.status other) = none
  stale : ∀ pools max ttl now, ∀ job ∈ (Lazy.start s pools max ttl now).1.stale,
    let e := StoreEvent.call (.start pools max ttl) now
    (StoreExchange.mk e (Lazy.step s e).1).text? (pools.status job) = none

theorem spares (s : InProcess) : s.Spares where
  later e name hnone ms := by
    rw [look_fst, look_fst, status?_eq_map_live?, status?_eq_map_live?, live?_advance,
      live?_advance, live?_step, hnone, clock_step, Option.filter_filter]
    congr 2
    funext entry
    rw [Bool.eq_iff_iff, Bool.and_eq_true, decide_eq_true_iff, decide_eq_true_iff,
      decide_eq_true_iff]
    omega
  evicted queue pools job label ttl now other hother := by
    dsimp only [StoreExchange.text?, Lazy.step]
    by_cases hj : job ∈ s.queue queue
    · rw [Lazy.push_of_mem pools label ttl now hj]
      simp
    · have hne : other ≠ job := fun e => hj (e ▸ hother)
      simp [status_inj, hne]
  stale pools max ttl now job hjob := by
    have hnot := (s.tests_start pools max ttl now).not_admitted hjob
    simp [StoreExchange.text?, Lazy.step, status_inj, hnot]

/-! ## Every run -/

/-- How a store that drops expired statuses only when it looks compares to one that forgets a status
the moment its time has come. -/
structure ExactExpiry (past : List StoreEvent) : Prop where
  /-- A text is found if it was written last and its time has not come, and nothing else is. -/
  live : ∀ name text, ((Lazy.run {} past).look name).1 = some text ↔
    ∃ written ttl, LastWrite (Lazy.transcript {} past) name text written ttl ∧
      elapsed (Lazy.transcript {} past) < written + ttl
  sees : (Lazy.run {} past).Sees fun name => ((Lazy.run {} past).look name).1
  spares : (Lazy.run {} past).Spares
  /-- The replies are those of a store that drops nothing and compares each deadline with its
  clock. -/
  replies : Lazy.replies {} past = ({} : InProcess).replies past

/-- In every run, whatever the times to live, each operation sees of a status what was written last
until its time comes, and nothing afterwards. -/
theorem Lazy.run_exact (past : List StoreEvent) : ExactExpiry past where
  live name text := by
    have h := Dated.empty.run past
    rw [List.nil_append] at h
    rw [look_fst, status?_eq_map_live?, Option.map_eq_some_iff]
    constructor
    · rintro ⟨⟨_, expiry⟩, hlive, rfl⟩
      obtain ⟨w, d, hlast, rfl, hlt⟩ := (h.live _ _ _).1 hlive
      exact ⟨w, d, hlast, hlt⟩
    · rintro ⟨w, d, hlast, hlt⟩
      exact ⟨(text, w + d), (h.live _ _ _).2 ⟨w, d, hlast, rfl, hlt⟩, rfl⟩
  sees := sees_look _
  spares := spares _
  replies := (Lazy.run_same (Same.refl _) past).1

/-- A duplicate push does not give the job more time, and a read after the deadline drops the status
without a trace. -/
example :
    let pools := (KeyLayout.mk "builds").pools
    let push := StoreEvent.call (.push "main" pools "a" "#1" 5) 0
    let look := StoreEvent.call (.status (pools.status "a")) 0
    Lazy.replies {} [push, .advance 4, push, look, .advance 1, look, push, look] =
      [.push ⟨1, none, none, false, none⟩, .advance, .push ⟨1, none, none, true, none⟩,
        .status (some "QUEUED"), .advance, .status none, .push ⟨1, none, none, true, none⟩,
        .status none] := by
  decide +kernel

end InProcess

end BuildQueue
