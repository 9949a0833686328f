import BuildQueue.Serializer.Timeline
import BuildQueue.Proofs.Serializer.Turns
import Mathlib.Logic.Relation

/-!
# Steps of a run

A run goes on step by step: a task that can go on is resumed, or time moves to the next timer
(`Timeline.State.step?`), and it ends where nothing is left to happen. Here is what the parts of a
step read and change; of the serializer they need to know only which calls have a claim on which key
(`Serializer.keyOf?`) and who has a turn.
-/

namespace BuildQueue

/-! ## The key of a call -/

namespace Serializer

variable {s : Serializer} {call other : Nat} {key : String}

/-- The key on which a call has a claim. -/
def keyOf? (s : Serializer) (call : Nat) : Option String := s.claims[call]?.map Claim.key

/-- The slots and claims are those of some calls. -/
def Served (s : Serializer) : Prop := ∃ calls, s.Serves calls

theorem Serves.keyOf?_eq_some {calls : List (Nat × String)} (h : s.Serves calls) :
    s.keyOf? call = some key ↔ (call, key) ∈ calls := by
  rw [keyOf?, Option.map_eq_some_iff]
  constructor
  · rintro ⟨c, hc, rfl⟩
    exact ((h.claim call c).1 hc).1
  · intro hc
    obtain ⟨n, -, hclaim, -⟩ := h.exists_slot hc
    exact ⟨⟨key, n⟩, hclaim, rfl⟩

theorem Serves.not_mem {calls : List (Nat × String)} (h : s.Serves calls)
    (hc : s.keyOf? call = none) : call ∉ calls.map Prod.fst := by
  intro hm
  obtain ⟨⟨c, k⟩, hk, rfl⟩ := List.mem_map.1 hm
  rw [h.keyOf?_eq_some.2 hk] at hc
  cases hc

theorem keyOf?_arrive (s : Serializer) (call : Nat) (key : String) (other : Nat) :
    (s.arrive call key).keyOf? other = if call = other then some key else s.keyOf? other := by
  unfold keyOf? arrive
  by_cases e : call = other <;> split <;> simp [Std.TreeMap.getElem?_insert, e]

theorem leave_of_none (h : s.keyOf? call = none) : s.leave call = (none, s) := by
  rw [keyOf?, Option.map_eq_none_iff] at h
  simp only [leave, h]

theorem keyOf?_leave (s : Serializer) (call other : Nat) :
    (s.leave call).2.keyOf? other = if call = other then none else s.keyOf? other := by
  cases h : s.claims[call]? with
  | none =>
    have hnone : s.keyOf? call = none := by rw [keyOf?, h]; rfl
    rw [leave_of_none hnone]
    split
    · next e => exact e ▸ hnone
    · rfl
  | some c =>
    simp only [keyOf?, leave, h, Std.TreeMap.getElem?_erase]
    by_cases e : call = other <;> simp [e]

theorem isSome_keyOf?_of_hasTurn (h : s.hasTurn call = true) : (s.keyOf? call).isSome = true := by
  unfold hasTurn at h
  cases hc : s.claims[call]? with
  | none => simp [hc] at h
  | some c => simp [keyOf?, hc]

namespace Served

variable (h : s.Served)
include h

theorem arrive (hc : s.keyOf? call = none) (key : String) : (s.arrive call key).Served := by
  obtain ⟨calls, h⟩ := h
  exact ⟨_, h.arrive (h.not_mem hc) key⟩

/-- An arrival gives a turn to nobody but the call that arrives. -/
theorem hasTurn_of_arrive (hc : s.keyOf? call = none) (hne : call ≠ other)
    (hturn : (s.arrive call key).hasTurn other = true) : s.hasTurn other = true := by
  obtain ⟨calls, h⟩ := h
  obtain ⟨k, hk, hhead⟩ := (h.arrive (h.not_mem hc) key).hasTurn_iff.1 hturn
  have hother : (other, k) ∈ calls := by
    simpa [Ne.symm hne] using hk
  refine h.hasTurn_iff.2 ⟨k, hother, ?_⟩
  obtain ⟨first, rest, hline⟩ :=
    List.exists_cons_of_ne_nil (List.ne_nil_of_mem (mem_lineOf.2 hother))
  rw [lineOf_append, hline] at hhead
  rw [hline]
  split at hhead <;> exact hhead

theorem leave (call : Nat) : (s.leave call).2.Served := by
  obtain ⟨calls, h⟩ := h
  cases hk : s.keyOf? call with
  | none =>
    rw [leave_of_none hk]
    exact ⟨calls, h⟩
  | some key => exact ⟨_, h.leave (h.keyOf?_eq_some.1 hk)⟩

/-- Who gets a turn when a call leaves is told so. -/
theorem hasTurn_of_leave (hturn : (s.leave call).2.hasTurn other = true) :
    s.hasTurn other = true ∨ (s.leave call).1 = some other := by
  obtain ⟨calls, h⟩ := h
  cases hk : s.keyOf? call with
  | none =>
    rw [leave_of_none hk] at hturn
    exact .inl hturn
  | some key =>
    cases ho : s.hasTurn other with
    | true => exact .inl rfl
    | false =>
      exact .inr ((h.leave_fst_eq_some (h.keyOf?_eq_some.1 hk) other).2 ⟨ho, hturn⟩)

/-- Who is told to have the turn has a claim. -/
theorem isSome_keyOf?_of_told (htold : (s.leave call).1 = some other) :
    (s.keyOf? other).isSome = true := by
  obtain ⟨calls, h⟩ := h
  cases hk : s.keyOf? call with
  | none =>
    rw [leave_of_none hk] at htold
    cases htold
  | some key =>
    have hturn := ((h.leave_fst_eq_some (h.keyOf?_eq_some.1 hk) other).1 htold).2
    have hsome := isSome_keyOf?_of_hasTurn hturn
    rw [keyOf?_leave] at hsome
    split at hsome
    · cases hsome
    · exact hsome

/-- When nobody has a turn, there are no calls, and no key is known. -/
theorem none_of_hasTurn (hno : ∀ call, s.hasTurn call = false) :
    (∀ call, s.keyOf? call = none) ∧ s.pendingKeys = 0 := by
  obtain ⟨calls, h⟩ := h
  have hnil : ∀ key, lineOf calls key = [] := by
    intro key
    by_contra hne
    obtain ⟨call, -, -, hturn, -⟩ := h.exists_holder hne
    rw [hno] at hturn
    cases hturn
  constructor
  · intro call
    refine Option.eq_none_iff_forall_ne_some.2 fun key hkey => ?_
    exact List.ne_nil_of_mem (mem_lineOf.2 (h.keyOf?_eq_some.1 hkey)) (hnil key)
  · have hempty : s.table.isEmpty = true := by
      rw [Std.TreeMap.isEmpty_iff_forall_not_mem]
      intro key hk
      rw [Std.TreeMap.mem_iff_isSome_getElem?, (h.known key).2 (hnil key)] at hk
      cases hk
    rw [Std.TreeMap.isEmpty_eq_size_eq_zero] at hempty
    exact beq_iff_eq.1 hempty

end Served

end Serializer

/-! ## Steps -/

namespace Timeline

variable {s t : State} {n : Nat}

namespace State

/-- What happens next, if anything does. -/
def step? (s : State) : Option State :=
  match s.ready with
  | n :: rest => some ({ s with ready := rest }.resume n)
  | [] => s.advance

theorem run_succ (fuel : Nat) (s : State) : s.run (fuel + 1) =
    match s.step? with
    | some t => t.run fuel
    | none => s := by
  rw [run, step?]
  cases s.ready with
  | nil => rfl
  | cons n rest => rfl

theorem run_of_step? (fuel : Nat) (h : s.step? = some t) : s.run (fuel + 1) = t.run fuel := by
  rw [run_succ, h]

theorem run_of_quiet (fuel : Nat) (h : s.step? = none) : s.run fuel = s := by
  cases fuel with
  | zero => rfl
  | succ fuel => rw [run_succ, h]

theorem step?_eq_none : s.step? = none ↔ s.ready = [] ∧ s.timers = [] := by
  unfold step? advance
  cases s.ready with
  | cons n rest => simp
  | nil =>
    cases h : (s.timers.map Prod.fst).min? with
    | none => simpa using h
    | some time =>
      have hne : s.timers ≠ [] := by
        rintro e
        simp [e] at h
      simp [hne]

/-- Whether a state leads to another one. -/
abbrev Leads : State → State → Prop := Relation.ReflTransGen fun s t => s.step? = some t

theorem leads_run (fuel : Nat) (s : State) : s.Leads (s.run fuel) := by
  induction fuel generalizing s with
  | zero => exact .refl
  | succ fuel ih =>
    cases h : s.step? with
    | none =>
      rw [run_of_quiet _ h]
    | some t =>
      rw [run_of_step? fuel h]
      exact .head h (ih t)

/-- A run has one end. -/
theorem Leads.unique {u : State} (ht : s.Leads t) (hu : s.Leads u) (hqt : t.step? = none)
    (hqu : u.step? = none) : t = u := by
  induction ht using Relation.ReflTransGen.head_induction_on with
  | refl =>
    rcases hu.cases_head with rfl | ⟨v, hv, -⟩
    · rfl
    · rw [hqt] at hv
      cases hv
  | head hstep _ ih =>
    rcases hu.cases_head with rfl | ⟨v, hv, hvu⟩
    · rw [hqu] at hstep
      cases hstep
    · rw [hstep] at hv
      obtain rfl := Option.some.inj hv
      exact ih hvu

/-! ## Wake-ups -/

theorem wake_eq (s : State) (n : Nat) : s.wake n = { s with ready := (s.wake n).ready } := by
  unfold wake
  split <;> rfl

theorem mem_ready_wake {i : Nat} : i ∈ (s.wake n).ready ↔ i ∈ s.ready ∨ i = n := by
  unfold wake
  split
  · next h =>
    have hn : n ∈ s.ready := by simpa using h
    exact ⟨.inl, fun hi => hi.elim id fun e => e ▸ hn⟩
  · simp

/-- Lets tasks go on one after the other. -/
def wakeAll (s : State) (due : List (Nat × Nat)) : State := due.foldl (fun s d => s.wake d.2) s

theorem wakeAll_eq (s : State) (due : List (Nat × Nat)) :
    s.wakeAll due = { s with ready := (s.wakeAll due).ready } := by
  induction due generalizing s with
  | nil => rfl
  | cons d due ih =>
    show (s.wake d.2).wakeAll due = { s with ready := ((s.wake d.2).wakeAll due).ready }
    rw [ih, wake_eq s]

theorem mem_ready_wakeAll {i : Nat} {due : List (Nat × Nat)} :
    i ∈ (s.wakeAll due).ready ↔ i ∈ s.ready ∨ ∃ time, (time, i) ∈ due := by
  induction due generalizing s with
  | nil => simp [wakeAll]
  | cons d due ih =>
    show i ∈ ((s.wake d.2).wakeAll due).ready ↔ _
    rw [ih, mem_ready_wake, or_assoc]
    refine or_congr_right ⟨?_, ?_⟩
    · rintro (rfl | ⟨time, h⟩)
      · exact ⟨d.1, List.mem_cons_self⟩
      · exact ⟨time, List.mem_cons_of_mem _ h⟩
    · rintro ⟨time, h⟩
      rcases List.mem_cons.1 h with rfl | h
      · exact .inl rfl
      · exact .inr ⟨time, h⟩

/-- Time moves to the first timer, and those that are due then go off. -/
theorem advance_eq_some : s.advance = some t ↔ ∃ time,
    (time ∈ s.timers.map Prod.fst ∧ ∀ x ∈ s.timers.map Prod.fst, time ≤ x) ∧
    t = State.wakeAll
      { s with now := time, timers := s.timers.filter fun d => !decide (d.1 = time) }
      (s.timers.filter fun d => decide (d.1 = time)) := by
  unfold advance
  simp only [List.partition_eq_filter_filter, ← List.min?_eq_some_iff]
  cases (s.timers.map Prod.fst).min? with
  | none => simp
  | some time =>
    simp only [Option.some.injEq, exists_eq_left']
    exact eq_comm

/-! ## Departures -/

/-- What a departure does: it tells at most one call that it has the turn now. -/
theorem leave_cases (s : State) (n : Nat) :
    (s.serializer.leave n).1 = none ∧
      s.leave n = { s with serializer := (s.serializer.leave n).2 } ∨
    ∃ m, (s.serializer.leave n).1 = some m ∧
      s.leave n = State.wake { s with serializer := (s.serializer.leave n).2 } m := by
  unfold State.leave
  dsimp only
  split
  · next m hm => exact .inr ⟨m, hm, rfl⟩
  · next hm => exact .inl ⟨hm, rfl⟩

/-- Who is told to have the turn can go on. -/
theorem mem_ready_leave {i : Nat} :
    i ∈ (s.leave n).ready ↔ i ∈ s.ready ∨ (s.serializer.leave n).1 = some i := by
  rcases s.leave_cases n with ⟨hnone, h⟩ | ⟨m, hm, h⟩
  · rw [h, hnone]
    simp
  · rw [h, hm, mem_ready_wake, Option.some.injEq, eq_comm]

/-- A departure changes the serializer and who can go on. -/
theorem leave_eq (s : State) (n : Nat) : s.leave n =
    { s with serializer := (s.serializer.leave n).2, ready := (s.leave n).ready } := by
  rcases s.leave_cases n with ⟨-, h⟩ | ⟨m, -, h⟩
  · rw [h]
  · rw [h]
    exact wake_eq _ m

@[simp] theorem now_leave (s : State) (n : Nat) : (s.leave n).now = s.now := by rw [leave_eq]

@[simp] theorem tasks_leave (s : State) (n : Nat) : (s.leave n).tasks = s.tasks := by rw [leave_eq]

@[simp] theorem phases_leave (s : State) (n : Nat) : (s.leave n).phases = s.phases := by
  rw [leave_eq]

@[simp] theorem serializer_leave (s : State) (n : Nat) :
    (s.leave n).serializer = (s.serializer.leave n).2 := by rw [leave_eq]

/-! ## Resumptions -/

theorem phases_setPhase {old : Phase} (h : s.phases[n]? = some old) (p : Phase) :
    (s.setPhase n p).phases[n]? = some p := by
  obtain ⟨hlt, -⟩ := List.getElem?_eq_some_iff.1 h
  exact List.getElem?_set_self hlt

theorem frame_finish (s : State) (n : Nat) :
    (s.finish n).now = s.now ∧ (s.finish n).tasks = s.tasks := by
  show ((s.emit _).leave n).now = _ ∧ ((s.emit _).leave n).tasks = _
  rw [now_leave, tasks_leave]
  exact ⟨rfl, rfl⟩

theorem frame_cancel (s : State) (n : Nat) :
    (s.cancel n).now = s.now ∧ (s.cancel n).tasks = s.tasks :=
  ⟨now_leave s n, tasks_leave s n⟩

theorem frame_work (s : State) (n hold : Nat) (deadline : Option Nat) :
    (s.work n hold deadline).now = s.now ∧ (s.work n hold deadline).tasks = s.tasks := by
  unfold work
  dsimp only
  split
  · exact frame_finish _ n
  split
  · exact frame_cancel _ n
  · exact ⟨rfl, rfl⟩

/-- A call that has just arrived takes its turn if it can. -/
def attempt (s : State) (n hold : Nat) (deadline : Option Nat) : State :=
  if s.serializer.hasTurn n then s.work n hold deadline
  else if s.isDue deadline then s.cancel n
  else s.setPhase n (.waiting deadline)

/-- A task that is not over yet will be resumed at its deadline. -/
def setDeadline (s : State) (n : Nat) (deadline : Option Nat) : State :=
  match deadline with
  | some d => if s.phases[n]? = some .over then s else s.setTimer d n
  | none => s

theorem enter_of_key {task : Task} {key : String} (h : task.key = some key) : s.enter n task =
    (State.attempt { s with serializer := s.serializer.arrive n key } n task.hold
      (task.timeout.map (s.now + ·))).setDeadline n (task.timeout.map (s.now + ·)) := by
  rw [enter, h]
  rfl

/-- Time stands still while a task is resumed, and the tasks are the same. -/
theorem frame_attempt (s : State) (n hold : Nat) (deadline : Option Nat) :
    (s.attempt n hold deadline).now = s.now ∧ (s.attempt n hold deadline).tasks = s.tasks := by
  unfold attempt
  split
  · exact frame_work ..
  split
  · exact frame_cancel _ n
  · exact ⟨rfl, rfl⟩

end State

end Timeline

end BuildQueue
