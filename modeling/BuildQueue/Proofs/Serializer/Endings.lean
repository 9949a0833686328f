import BuildQueue.Proofs.Serializer.Steps
import Mathlib.Algebra.GroupWithZero.Nat
import Mathlib.Algebra.Order.BigOperators.Group.List
import Mathlib.Algebra.Order.Group.Nat

/-!
# Every run comes to its end

A state of a run has a weight: what it may still cost to resume the tasks that can go on, to wait
for the timers and to lead each task through its phases (`Timeline.State.weight`). Each step takes
some of it (`Timeline.State.sound_step`), and at first it is below what a run may do, so a run ends
where nothing is left to happen. All along, each task that is not over has something that will let
it go on: a timer, its place among those that can, or the call before it in the line of its key
(`Timeline.State.Sound`). At the end nothing of the kind is left, so all tasks are over and no key
is known any more.
-/

namespace BuildQueue

namespace Timeline

variable {s t : State} {n : Nat}

/-! ## Weights -/

/-- What a task costs from a phase on. -/
def Phase.weight : Phase → Nat
  | .asleep => 5
  | .waiting _ => 3
  | .working .. => 1
  | .over => 0

/-- Whether a task has a call in a phase. -/
def Phase.isLive : Phase → Bool
  | .asleep | .over => false
  | .waiting _ | .working .. => true

namespace State

/-- What it costs to resume a task. One whose time has not come sets a timer and comes again. -/
def price (s : State) (n : Nat) : Nat := if s.tasks[n]?.any (s.now < ·.start) then 3 else 1

/-- What the rest of a run may cost. -/
def weight (s : State) : Nat :=
  (s.ready.map s.price).sum + 2 * s.timers.length + (s.phases.map Phase.weight).sum

theorem weight_wake_le (s : State) (n : Nat) : (s.wake n).weight ≤ s.weight + s.price n := by
  unfold wake
  split
  · omega
  · show ((s.ready ++ [n]).map s.price).sum + _ + _ ≤ _
    simp only [weight, List.map_append, List.map_singleton, List.sum_append, List.sum_singleton]
    omega

theorem weight_wakeAll_le {due : List (Nat × Nat)} (h : ∀ d ∈ due, s.price d.2 = 1) :
    (s.wakeAll due).weight ≤ s.weight + due.length := by
  induction due generalizing s with
  | nil => exact Nat.le_refl _
  | cons d due ih =>
    have hprice : ∀ i, (s.wake d.2).price i = s.price i := fun i => by
      rw [wake_eq]
      rfl
    have hrest := ih (s := s.wake d.2) fun d' hd => by
      rw [hprice]
      exact h d' (List.mem_cons_of_mem _ hd)
    have hwake := weight_wake_le s d.2
    rw [h d List.mem_cons_self] at hwake
    show ((s.wake d.2).wakeAll due).weight ≤ _
    rw [List.length_cons]
    omega

theorem weight_setTimer (s : State) (time n : Nat) : (s.setTimer time n).weight = s.weight + 2 := by
  show _ + 2 * (s.timers ++ [(time, n)]).length + _ = _ + 2 * s.timers.length + _ + 2
  rw [List.length_append, List.length_singleton]
  show (s.ready.map s.price).sum + _ + (s.phases.map Phase.weight).sum = _
  omega

theorem weight_setPhase {old : Phase} (h : s.phases[n]? = some old) (p : Phase) :
    (s.setPhase n p).weight + old.weight = s.weight + p.weight := by
  obtain ⟨hlt, hold⟩ := List.getElem?_eq_some_iff.1 h
  obtain ⟨front, rest, hphases, -, hset⟩ := List.exists_of_set hlt
  rw [hold] at hphases
  show (s.ready.map s.price).sum + 2 * s.timers.length + ((s.phases.set n p).map Phase.weight).sum
    + _ = (s.ready.map s.price).sum + 2 * s.timers.length + (s.phases.map Phase.weight).sum + _
  have hsum : (s.phases.map Phase.weight).sum = (front.map Phase.weight).sum +
      (old.weight + (rest.map Phase.weight).sum) := by
    rw [hphases, List.map_append, List.map_cons, List.sum_append, List.sum_cons]
  rw [hset, hsum, List.map_append, List.map_cons, List.sum_append, List.sum_cons]
  omega

/-! ## What keeps a task going -/

/-- Something will let the task go on in its phase. -/
def Minded (s : State) (n : Nat) : Phase → Prop
  | .asleep => n ∈ s.ready ∨ ∃ time, (time, n) ∈ s.timers
  | .waiting _ => s.serializer.hasTurn n = true → n ∈ s.ready
  | .working doneAt _ => (doneAt, n) ∈ s.timers ∨ doneAt ≤ s.now ∧ n ∈ s.ready
  | .over => True

/-- A task has a claim as long as it waits or works, and something will let it go on. -/
structure Settled (s : State) (n : Nat) : Prop where
  live : (s.serializer.keyOf? n).isSome = true ↔ ∃ p, s.phases[n]? = some p ∧ p.isLive = true
  minded : ∀ p, s.phases[n]? = some p → s.Minded n p

/-- The invariant of a run; while a task is resumed, its own part of it is open. -/
structure Sound (s : State) (busy : Option Nat) : Prop where
  served : s.serializer.Served
  length : s.phases.length = s.tasks.length
  /-- A call is that of a task whose time has come. -/
  called : ∀ n key, s.serializer.keyOf? n = some key →
    ∃ t, s.tasks[n]? = some t ∧ t.key = some key ∧ t.start ≤ s.now
  /-- A timer goes off when the time of its task has come. -/
  timed : ∀ n time, (time, n) ∈ s.timers →
    s.now ≤ time ∧ ∀ t, s.tasks[n]? = some t → t.start ≤ time
  settled : ∀ n, busy ≠ some n → s.Settled n

namespace Sound

variable {busy : Option Nat} {key : String}

theorem close (h : s.Sound (some n)) (hn : s.Settled n) : s.Sound none where
  served := h.served
  length := h.length
  called := h.called
  timed := h.timed
  settled := fun i _ => by
    by_cases e : n = i
    · exact e ▸ hn
    · exact h.settled i fun he => e (Option.some.inj he)

theorem emit (h : s.Sound busy) (e : Event) : (s.emit e).Sound busy :=
  ⟨h.served, h.length, h.called, h.timed, fun i hi =>
    ⟨(h.settled i hi).live, (h.settled i hi).minded⟩⟩

theorem setPhase (h : s.Sound (some n)) (p : Phase) : (s.setPhase n p).Sound (some n) where
  served := h.served
  length := List.length_set.trans h.length
  called := h.called
  timed := h.timed
  settled := fun i hi => by
    have hne : n ≠ i := fun e => hi (congrArg some e)
    have hphase : (s.phases.set n p)[i]? = s.phases[i]? := List.getElem?_set_ne hne
    have hs := h.settled i hi
    exact ⟨by rw [State.setPhase, hphase]; exact hs.live,
      fun q hq => hs.minded q (hphase ▸ hq)⟩

theorem setTimer (h : s.Sound busy) (time : Nat) (hnow : s.now ≤ time)
    (hstart : ∀ t, s.tasks[n]? = some t → t.start ≤ time) : (s.setTimer time n).Sound busy where
  served := h.served
  length := h.length
  called := h.called
  timed := fun i x hx => by
    rcases List.mem_append.1 hx with hx | hx
    · exact h.timed i x hx
    · obtain ⟨rfl, rfl⟩ : x = time ∧ i = n := by simpa using hx
      exact ⟨hnow, hstart⟩
  settled := fun i hi => by
    have hs := h.settled i hi
    refine ⟨hs.live, fun p hp => ?_⟩
    have hm := hs.minded p hp
    cases p with
    | asleep => exact hm.imp_right fun ⟨x, hx⟩ => ⟨x, List.mem_append_left _ hx⟩
    | waiting d => exact hm
    | working doneAt d => exact hm.imp_left (List.mem_append_left _)
    | _ => trivial

theorem arrive (h : s.Sound (some n)) (hn : s.serializer.keyOf? n = none) {t : Task}
    (ht : s.tasks[n]? = some t) (hkey : t.key = some key) (hstart : t.start ≤ s.now) :
    State.Sound { s with serializer := s.serializer.arrive n key } (some n) where
  served := h.served.arrive hn key
  length := h.length
  called := fun i k hk => by
    rw [Serializer.keyOf?_arrive] at hk
    split at hk
    · next e => exact ⟨t, e ▸ ht, hkey.trans hk, hstart⟩
    · exact h.called i k hk
  timed := h.timed
  settled := fun i hi => by
    have hne : n ≠ i := fun e => hi (congrArg some e)
    have hs := h.settled i hi
    constructor
    · rw [Serializer.keyOf?_arrive, if_neg hne]
      exact hs.live
    · intro p hp
      have hm := hs.minded p hp
      cases p with
      | waiting d => exact fun hturn => hm (h.served.hasTurn_of_arrive hn hne hturn)
      | _ => exact hm

theorem price_of_keyOf? (h : s.Sound busy) (hk : (s.serializer.keyOf? n).isSome = true) :
    s.price n = 1 := by
  obtain ⟨key, hkey⟩ := Option.isSome_iff_exists.1 hk
  obtain ⟨t, ht, -, hstart⟩ := h.called n key hkey
  rw [price, ht, if_neg (by simpa using hstart)]

theorem weight_leave_le (h : s.Sound busy) (n : Nat) : (s.leave n).weight ≤ s.weight + 1 := by
  rcases s.leave_cases n with ⟨-, hs⟩ | ⟨m, htold, hs⟩
  · rw [hs]
    exact Nat.le_succ _
  · rw [hs, ← h.price_of_keyOf? (h.served.isSome_keyOf?_of_told htold)]
    exact weight_wake_le _ m

theorem leave (h : s.Sound (some n)) : (s.leave n).Sound (some n) where
  served := by
    rw [serializer_leave]
    exact h.served.leave n
  length := by
    rw [phases_leave, tasks_leave]
    exact h.length
  called := fun i k hk => by
    rw [serializer_leave, Serializer.keyOf?_leave] at hk
    rw [tasks_leave, now_leave]
    split at hk
    · cases hk
    · exact h.called i k hk
  timed := by
    rw [leave_eq]
    exact h.timed
  settled := fun i hi => by
    have hne : n ≠ i := fun e => hi (congrArg some e)
    have hs := h.settled i hi
    have hready : i ∈ s.ready → i ∈ (s.leave n).ready := fun hi => mem_ready_leave.2 (.inl hi)
    constructor
    · rw [serializer_leave, Serializer.keyOf?_leave, if_neg hne, phases_leave]
      exact hs.live
    · intro p hp
      rw [phases_leave] at hp
      have hm := hs.minded p hp
      cases p with
      | asleep =>
        rw [leave_eq]
        exact hm.imp_left hready
      | waiting d =>
        intro hturn
        rw [serializer_leave] at hturn
        rcases h.served.hasTurn_of_leave hturn with hbefore | htold
        · exact hready (hm hbefore)
        · exact mem_ready_leave.2 (.inr htold)
      | working doneAt d =>
        rw [leave_eq]
        exact hm.imp_right (And.imp_right hready)
      | _ => trivial

/-! ## Resumptions -/

/-- A task whose call has left is over. -/
theorem setOver (h : s.Sound (some n)) {p : Phase} (hp : s.phases[n]? = some p)
    (hk : s.serializer.keyOf? n = none) : (s.setPhase n .over).Sound none ∧
      (s.setPhase n .over).weight + p.weight = s.weight := by
  have hphase := phases_setPhase hp .over
  refine ⟨(h.setPhase .over).close ⟨?_, fun q hq => ?_⟩, weight_setPhase hp .over⟩
  · show (s.serializer.keyOf? n).isSome = true ↔ _
    rw [hk, hphase]
    simp [Phase.isLive]
  · rw [hphase] at hq
    obtain rfl := Option.some.inj hq
    trivial

theorem finish (h : s.Sound (some n)) {p : Phase} (hp : s.phases[n]? = some p) :
    (s.finish n).Sound none ∧ (s.finish n).weight + p.weight ≤ s.weight + 1 := by
  have hleft := (h.emit (.finish n)).leave
  have hweight := (h.emit (.finish n)).weight_leave_le n
  obtain ⟨hs, hw⟩ := (hleft.emit (.returned n)).setOver (p := p) (by simpa [State.emit] using hp)
    (by simp [State.emit, Serializer.keyOf?_leave])
  refine ⟨hs, ?_⟩
  rw [State.finish, hw]
  exact hweight

theorem cancel (h : s.Sound (some n)) {p : Phase} (hp : s.phases[n]? = some p) :
    (s.cancel n).Sound none ∧ (s.cancel n).weight + p.weight ≤ s.weight + 1 := by
  obtain ⟨hs, hw⟩ := (h.leave.emit (.cancelled n)).setOver (p := p) (by simpa [State.emit] using hp)
    (by simp [State.emit, Serializer.keyOf?_leave])
  refine ⟨hs, ?_⟩
  rw [State.cancel, hw]
  exact h.weight_leave_le n

theorem work (h : s.Sound (some n)) {p : Phase} (hp : s.phases[n]? = some p)
    (hk : (s.serializer.keyOf? n).isSome = true) (hold : Nat) (deadline : Option Nat) :
    (s.work n hold deadline).Sound none ∧ (s.work n hold deadline).weight + p.weight ≤
      s.weight + 3 := by
  have he := h.emit (.start n)
  unfold State.work
  dsimp only
  split
  · obtain ⟨hs, hw⟩ := he.finish hp
    exact ⟨hs, hw.trans (Nat.add_le_add_left (by decide) _)⟩
  split
  · obtain ⟨hs, hw⟩ := he.cancel hp
    exact ⟨hs, hw.trans (Nat.add_le_add_left (by decide) _)⟩
  · obtain ⟨key, hkey⟩ := Option.isSome_iff_exists.1 hk
    obtain ⟨t, ht, -, hstart⟩ := h.called n key hkey
    have hafter : ∀ t', s.tasks[n]? = some t' → t'.start ≤ s.now + hold := by
      intro t' ht'
      obtain rfl := Option.some.inj (ht.symm.trans ht')
      exact hstart.trans (Nat.le_add_right _ _)
    have hset := weight_setPhase (s := s.emit (.start n)) hp (.working (s.now + hold) deadline)
    have hphase := phases_setPhase (s := s) hp (.working (s.now + hold) deadline)
    constructor
    · refine ((he.setPhase (.working (s.now + hold) deadline)).setTimer (s.now + hold)
        (Nat.le_add_right _ _) hafter).close ⟨?_, fun q hq => ?_⟩
      · exact ⟨fun _ => ⟨_, hphase, rfl⟩, fun _ => hk⟩
      · obtain rfl := Option.some.inj (hphase.symm.trans hq)
        exact .inl (List.mem_append_right _ (List.mem_singleton.2 rfl))
    · rw [weight_setTimer]
      have hweight : (s.emit (.start n)).weight = s.weight := rfl
      have hone : (Phase.working (s.now + hold) deadline).weight = 1 := rfl
      show State.weight ((s.emit (.start n)).setPhase n (.working (s.now + hold) deadline)) + 2 +
        p.weight ≤ _
      omega

theorem attempt (h : s.Sound (some n)) {p : Phase} (hp : s.phases[n]? = some p)
    (hk : (s.serializer.keyOf? n).isSome = true) (hold : Nat) (deadline : Option Nat) :
    (s.attempt n hold deadline).Sound none ∧
      (s.attempt n hold deadline).weight + p.weight ≤ s.weight + 3 := by
  unfold State.attempt
  split
  · exact h.work hp hk hold deadline
  next hturn =>
  split
  · obtain ⟨hs, hw⟩ := h.cancel hp
    exact ⟨hs, hw.trans (Nat.add_le_add_left (by decide) _)⟩
  · have hphase := phases_setPhase hp (.waiting deadline)
    refine ⟨(h.setPhase (.waiting deadline)).close ⟨?_, fun q hq => ?_⟩,
      Nat.le_of_eq (weight_setPhase hp (.waiting deadline))⟩
    · exact ⟨fun _ => ⟨_, hphase, rfl⟩, fun _ => hk⟩
    · obtain rfl := Option.some.inj (hphase.symm.trans hq)
      exact fun h => absurd h hturn

theorem setDeadline (h : s.Sound busy) (deadline : Option Nat)
    (hd : ∀ d, deadline = some d → s.now ≤ d ∧ ∀ t, s.tasks[n]? = some t → t.start ≤ d) :
    (s.setDeadline n deadline).Sound busy ∧ (s.setDeadline n deadline).weight ≤ s.weight + 2 := by
  unfold State.setDeadline
  split
  · next d =>
    obtain ⟨hnow, hstart⟩ := hd d rfl
    split
    · exact ⟨h, Nat.le_add_right _ _⟩
    · exact ⟨h.setTimer d hnow hstart, Nat.le_of_eq (weight_setTimer s d n)⟩
  · exact ⟨h, Nat.le_add_right _ _⟩

theorem enter (h : s.Sound (some n)) {task : Task} (ht : s.tasks[n]? = some task)
    (hp : s.phases[n]? = some .asleep) (hk : s.serializer.keyOf? n = none)
    (hstart : task.start ≤ s.now) :
    (s.enter n task).Sound none ∧ (s.enter n task).weight ≤ s.weight := by
  cases hkey : task.key with
  | none =>
    obtain ⟨hs, hw⟩ := (h.emit (.pending s.serializer.pendingKeys)).setOver hp hk
    rw [State.enter, hkey]
    exact ⟨hs, Nat.le_of_add_right_le (Nat.le_of_eq hw)⟩
  | some key =>
    rw [enter_of_key hkey]
    obtain ⟨hs, hw⟩ := (h.arrive hk ht hkey hstart).attempt hp
      (by simp [Serializer.keyOf?_arrive]) task.hold (task.timeout.map (s.now + ·))
    obtain ⟨hs', hw'⟩ := hs.setDeadline (n := n) (task.timeout.map (s.now + ·)) (by
      intro d hd
      obtain ⟨after, -, rfl⟩ := Option.map_eq_some_iff.1 hd
      rw [(frame_attempt ..).1, (frame_attempt ..).2]
      refine ⟨Nat.le_add_right _ _, fun t' ht' => ?_⟩
      obtain rfl := Option.some.inj (ht.symm.trans ht')
      exact hstart.trans (Nat.le_add_right _ _))
    refine ⟨hs', ?_⟩
    have hfive : Phase.asleep.weight = 5 := rfl
    have harrived : State.weight { s with serializer := s.serializer.arrive n key } = s.weight :=
      rfl
    omega

/-- A task that is resumed goes on as far as it can, and what that costs has been paid for. -/
theorem resume (h : s.Sound (some n))
    (hlive : (s.serializer.keyOf? n).isSome = true ↔ ∃ p, s.phases[n]? = some p ∧ p.isLive = true)
    (hwork : ∀ doneAt d, s.phases[n]? = some (.working doneAt d) → s.now < doneAt →
      (doneAt, n) ∈ s.timers) :
    (s.resume n).Sound none ∧ (s.resume n).weight < s.weight + s.price n := by
  have hprice : 1 ≤ s.price n := by
    unfold price
    split <;> omega
  -- A task that has nothing to do yet stays where it is.
  have hstay : (∀ p, s.phases[n]? = some p → s.Minded n p) →
      s.Sound none ∧ s.weight < s.weight + s.price n := fun hminded =>
    ⟨h.close ⟨hlive, hminded⟩, by omega⟩
  unfold State.resume
  split
  · next t ht hp =>
    have hk : s.serializer.keyOf? n = none := by
      by_contra hne
      obtain ⟨q, hq, hqlive⟩ := hlive.1 (Option.isSome_iff_ne_none.2 hne)
      rw [← Option.some.inj (hp.symm.trans hq)] at hqlive
      cases hqlive
    split
    · next hstart =>
      obtain ⟨hs, hw⟩ := h.enter ht hp hk hstart
      exact ⟨hs, by omega⟩
    · next hstart =>
      have hlater : s.price n = 3 := by
        rw [price, ht, if_pos (by simpa using hstart)]
      have hafter : ∀ t', s.tasks[n]? = some t' → t'.start ≤ t.start := by
        intro t' ht'
        rw [Option.some.inj (ht.symm.trans ht')]
      refine ⟨(h.setTimer t.start (by omega) hafter).close ⟨hlive, fun p hp' => ?_⟩, ?_⟩
      · obtain rfl := Option.some.inj (hp.symm.trans hp')
        exact .inr ⟨t.start, List.mem_append_right _ (List.mem_singleton.2 rfl)⟩
      · rw [weight_setTimer, hlater]
        omega
  · next t deadline ht hp =>
    have hk := hlive.2 ⟨_, hp, rfl⟩
    have hthree : (Phase.waiting deadline).weight = 3 := rfl
    split
    · obtain ⟨hs, hw⟩ := h.work hp hk t.hold deadline
      exact ⟨hs, by omega⟩
    next hturn =>
    split
    · obtain ⟨hs, hw⟩ := h.cancel hp
      exact ⟨hs, by omega⟩
    · refine hstay fun p hp' => ?_
      obtain rfl := Option.some.inj (hp.symm.trans hp')
      exact fun h => absurd h hturn
  · next t doneAt deadline ht hp =>
    have hone : (Phase.working doneAt deadline).weight = 1 := rfl
    split
    · obtain ⟨hs, hw⟩ := h.finish hp
      exact ⟨hs, by omega⟩
    next hdone =>
    split
    · obtain ⟨hs, hw⟩ := h.cancel hp
      exact ⟨hs, by omega⟩
    · refine hstay fun p hp' => ?_
      obtain rfl := Option.some.inj (hp.symm.trans hp')
      exact .inl (hwork doneAt deadline hp (Nat.lt_of_not_le hdone))
  · next hasleep hwaiting hworking =>
    refine hstay fun p hp => ?_
    obtain ⟨hlt, -⟩ := List.getElem?_eq_some_iff.1 hp
    obtain ⟨t, ht⟩ : ∃ t, s.tasks[n]? = some t :=
      ⟨_, List.getElem?_eq_getElem (h.length ▸ hlt)⟩
    cases p with
    | asleep => exact absurd hp (hasleep t ht)
    | waiting deadline => exact absurd hp (hwaiting t deadline ht)
    | working doneAt deadline => exact absurd hp (hworking t doneAt deadline ht)
    | _ => trivial

/-- A task that is taken from those that can go on is busy. -/
theorem pop (h : s.Sound none) {rest : List Nat} (hr : s.ready = n :: rest) :
    State.Sound { s with ready := rest } (some n) := by
  refine ⟨h.served, h.length, h.called, h.timed, fun i hi => ?_⟩
  have hne : i ≠ n := fun e => hi (congrArg some e.symm)
  have hready : i ∈ s.ready → i ∈ rest := fun hm => (List.mem_cons.1 (hr ▸ hm)).resolve_left hne
  have hs := h.settled i (by simp)
  refine ⟨hs.live, fun p hp => ?_⟩
  have hm := hs.minded p hp
  cases p with
  | asleep => exact hm.imp_left hready
  | waiting d => exact fun hturn => hready (hm hturn)
  | working doneAt d => exact hm.imp_right (And.imp_right hready)
  | _ => trivial

theorem advance (h : s.Sound none) (hr : s.ready = []) (ht : s.advance = some t) :
    t.Sound none ∧ t.weight < s.weight := by
  obtain ⟨time, ⟨hmem, hmin⟩, rfl⟩ := advance_eq_some.1 ht
  have hnow : s.now ≤ time := by
    obtain ⟨⟨x, i⟩, hx, rfl⟩ := List.mem_map.1 hmem
    exact (h.timed i x hx).1
  have hlater : ∀ {i x}, (x, i) ∈ s.timers.filter (fun d => !decide (d.1 = time)) ↔
      (x, i) ∈ s.timers ∧ x ≠ time := by simp
  have hdue : ∀ {i x}, (x, i) ∈ s.timers.filter (fun d => decide (d.1 = time)) ↔
      (x, i) ∈ s.timers ∧ x = time := by simp
  constructor
  · rw [wakeAll_eq]
    refine ⟨h.served, h.length, fun i key hkey => ?_, fun i x hx => ?_, fun i hi => ?_⟩
    · obtain ⟨task, htask, hk, hstart⟩ := h.called i key hkey
      exact ⟨task, htask, hk, hstart.trans hnow⟩
    · have hx' := (hlater.1 hx).1
      exact ⟨hmin x (List.mem_map_of_mem hx'), (h.timed i x hx').2⟩
    · have hs := h.settled i hi
      refine ⟨hs.live, fun p hp => ?_⟩
      have hm := hs.minded p hp
      cases p with
      | asleep =>
        obtain ⟨x, hx⟩ := hm.resolve_left (by simp [hr])
        by_cases e : x = time
        · exact .inl (mem_ready_wakeAll.2 (.inr ⟨x, hdue.2 ⟨hx, e⟩⟩))
        · exact .inr ⟨x, hlater.2 ⟨hx, e⟩⟩
      | waiting d => exact fun hturn => absurd (hm hturn) (by simp [hr])
      | working doneAt d =>
        have hx := hm.resolve_right (by simp [hr])
        by_cases e : doneAt = time
        · exact .inr ⟨Nat.le_of_eq e, mem_ready_wakeAll.2 (.inr ⟨doneAt, hdue.2 ⟨hx, e⟩⟩)⟩
        · exact .inl (hlater.2 ⟨hx, e⟩)
      | _ => trivial
  · have hprice : ∀ d ∈ s.timers.filter (fun d => decide (d.1 = time)), State.price
        { s with now := time, timers := s.timers.filter fun d => !decide (d.1 = time) } d.2 =
          1 := by
      rintro ⟨x, i⟩ hd
      obtain ⟨hx, rfl⟩ := hdue.1 hd
      have hstart := (h.timed i x hx).2
      refine if_neg ?_
      cases htask : s.tasks[i]? with
      | none => simp
      | some task => simpa using hstart task htask
    have hle := weight_wakeAll_le hprice
    have hlength := List.length_eq_length_filter_add (l := s.timers) fun d => decide (d.1 = time)
    have hpos : 0 < (s.timers.filter fun d => decide (d.1 = time)).length := by
      obtain ⟨⟨x, i⟩, hx, rfl⟩ := List.mem_map.1 hmem
      exact List.length_pos_of_mem (hdue.2 ⟨hx, rfl⟩)
    refine hle.trans_lt ?_
    simp only [weight, hr, List.map_nil, List.sum_nil]
    omega

end Sound

/-- A step keeps the invariant and takes some of the weight. -/
theorem sound_step (h : s.Sound none) (hstep : s.step? = some t) :
    t.Sound none ∧ t.weight < s.weight := by
  unfold step? at hstep
  split at hstep
  · next n rest hr =>
    obtain rfl := Option.some.inj hstep
    have hn := h.settled n (by simp)
    have hweight : s.weight = State.weight { s with ready := rest } + s.price n := by
      show (s.ready.map s.price).sum + _ + _ = (rest.map s.price).sum + _ + _ + _
      rw [hr, List.map_cons, List.sum_cons]
      show _ = (rest.map s.price).sum + 2 * s.timers.length + (s.phases.map Phase.weight).sum + _
      omega
    rw [hweight]
    refine (h.pop hr).resume hn.live fun doneAt d hp hlt => ?_
    exact (hn.minded _ hp).resolve_right fun hdone => absurd hdone.1 (Nat.not_le.2 hlt)
  · next hr => exact h.advance hr hstep

/-- A run that may do as much as it weighs comes to its end. -/
theorem quiet_run (h : s.Sound none) (fuel : Nat) (hfuel : s.weight < fuel) :
    (s.run fuel).Sound none ∧ (s.run fuel).step? = none := by
  induction fuel generalizing s with
  | zero => exact absurd hfuel (Nat.not_lt_zero _)
  | succ fuel ih =>
    cases hstep : s.step? with
    | none =>
      rw [run_of_quiet _ hstep]
      exact ⟨h, hstep⟩
    | some t =>
      obtain ⟨ht, hlt⟩ := sound_step h hstep
      rw [run_of_step? fuel hstep]
      exact ih ht (by omega)

/-- Where nothing is left to happen, all tasks are over and no key is known. -/
theorem Sound.over_of_quiet (h : s.Sound none) (hq : s.step? = none) :
    (∀ p ∈ s.phases, p = .over) ∧ s.serializer.pendingKeys = 0 := by
  obtain ⟨hr, ht⟩ := step?_eq_none.1 hq
  have hno : ∀ n, s.serializer.hasTurn n = false := by
    intro n
    by_contra hturn
    rw [Bool.not_eq_false] at hturn
    obtain ⟨p, hp, hlive⟩ := (h.settled n (by simp)).live.1
      (Serializer.isSome_keyOf?_of_hasTurn hturn)
    have hm := (h.settled n (by simp)).minded p hp
    cases p with
    | waiting d => exact absurd (hm hturn) (by simp [hr])
    | working doneAt d => simp [Minded, hr, ht] at hm
    | asleep => cases hlive
    | _ => cases hlive
  obtain ⟨hnone, hzero⟩ := h.served.none_of_hasTurn hno
  refine ⟨fun p hp => ?_, hzero⟩
  obtain ⟨n, hn⟩ := List.mem_iff_getElem?.1 hp
  have hs := h.settled n (by simp)
  have hdead : ¬ p.isLive = true := by
    intro hlive
    have hk := hs.live.2 ⟨p, hn, hlive⟩
    rw [hnone n] at hk
    cases hk
  have hm := hs.minded p hn
  cases p with
  | asleep => simp [Minded, hr, ht] at hm
  | waiting d => exact absurd rfl hdead
  | working doneAt d => exact absurd rfl hdead
  | _ => rfl

end State

/-! ## Whole runs -/

theorem sound_initial (tasks : List Task) : (initial tasks).Sound none where
  served := ⟨[], .empty⟩
  length := List.length_map _
  called := fun n key hkey => by simp [Serializer.keyOf?, initial] at hkey
  timed := fun n time htime => by simp [initial] at htime
  settled := fun n _ => by
    have hasleep : ∀ p, (initial tasks).phases[n]? = some p → p = .asleep ∧ n < tasks.length := by
      intro p hp
      have hp' : (tasks.map fun _ => Phase.asleep)[n]? = some p := hp
      rw [List.getElem?_map] at hp'
      obtain ⟨t, ht, rfl⟩ := Option.map_eq_some_iff.1 hp'
      exact ⟨rfl, (List.getElem?_eq_some_iff.1 ht).1⟩
    constructor
    · constructor
      · intro hsome
        simp [Serializer.keyOf?, initial] at hsome
      · rintro ⟨p, hp, hlive⟩
        rw [(hasleep p hp).1] at hlive
        cases hlive
    · intro p hp
      obtain ⟨rfl, hlt⟩ := hasleep p hp
      exact .inl (List.mem_range.2 hlt)

theorem weight_initial_le (tasks : List Task) : (initial tasks).weight ≤ 8 * tasks.length := by
  have hprices : (((initial tasks).ready).map (initial tasks).price).sum ≤ 3 * tasks.length := by
    refine (List.sum_le_card_nsmul _ 3 fun c hc => ?_).trans (by simp [initial, Nat.mul_comm])
    obtain ⟨n, -, rfl⟩ := List.mem_map.1 hc
    unfold State.price
    split <;> omega
  have hphases : (((initial tasks).phases).map Phase.weight).sum = 5 * tasks.length := by
    simp [initial, Phase.weight, Nat.mul_comm]
  have htimers : (initial tasks).timers.length = 0 := rfl
  unfold State.weight
  omega

/-- Nothing is left to happen at the end of a run, all tasks are over, and no key is known. -/
theorem run_ends (tasks : List Task) : (run tasks).step? = none ∧
    (∀ p ∈ (run tasks).phases, p = .over) ∧ (run tasks).serializer.pendingKeys = 0 := by
  obtain ⟨hs, hq⟩ := State.quiet_run (sound_initial tasks) (8 * tasks.length + 1)
    (Nat.lt_succ_of_le (weight_initial_le tasks))
  exact ⟨hq, hs.over_of_quiet hq⟩

end Timeline

end BuildQueue
