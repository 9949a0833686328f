import BuildQueue.Proofs.Ledger.Calls
import BuildQueue.Proofs.Prog

/-!
# Changes of state, request by request

A change of state reads the job's status, swaps it and posts the change. It succeeds if and only if
the store has applied the swap.
-/

namespace BuildQueue.Ledger

/-- The state of a job is one request. -/
theorem status_eq (l : Ledger) (key : JobKey) : l.status key =
    .ask (.store (.status (l.layout.status key))) fun answer => .done (answer.bind readState) := by
  refine congrArg (Prog.ask (I := interface) _) (funext fun answer => ?_)
  cases answer <;> rfl

/-- The answer to it is the name of the state. -/
theorem eq_ok_of_bind_readState {answer : Result (Option String)} {state : QueueState}
    (h : answer.bind readState = .ok (some state)) : answer = .ok (some state.name) := by
  cases answer with
  | error e => cases h
  | ok raw => exact congrArg Except.ok (readState_eq_some h)

/-- A change of state as the requests that it makes. -/
theorem apply_eq (l : Ledger) (key : JobKey) (state : QueueState) (superseded : Bool) :
    l.apply key state superseded =
      .ask (.store (.status (l.layout.status key))) fun
        | .error e => .done (.error e)
        | .ok raw =>
          match readState raw with
          | .error e => .done (.error e)
          | .ok none => .done (.error (.illegalTransition key.text none state))
          | .ok (some current) =>
            if current.canBecome state then
              .ask (.store (.swap l.layout.pools (l.swapOf key current state) l.ttl)) fun
                | .error e => .done (.error e)
                | .ok (.rejected raw) => .done ((readState raw).bind fun current =>
                    .error (.illegalTransition key.text current state))
                | .ok (.applied _) =>
                  .ask (.post ⟨key, state, some current, superseded⟩) fun _ =>
                    .done (.ok ⟨key, state, some current, superseded⟩)
            else .done (.error (.illegalTransition key.text (some current) state)) := by
  refine congrArg (Prog.ask (I := interface) _) (funext fun answer => ?_)
  cases answer with
  | error e => rfl
  | ok raw =>
    show Prog.bind (.done (readState raw)) _ = _
    rw [Prog.done_bind]
    dsimp only
    cases readState raw with
    | error e => rfl
    | ok found =>
      cases found with
      | none => rfl
      | some current =>
        dsimp only
        by_cases hc : current.canBecome state = true
        · rw [if_pos hc, if_pos hc]
          refine congrArg (Prog.ask (I := interface) _) (funext fun reply => ?_)
          rcases reply with e | _ | _ <;> rfl
        · rw [if_neg hc, if_neg hc]
          rfl

/-- The swap that the store has applied, if the exchange is about one. -/
def applied? : Exchange interface → Option StatusSwap
  | ⟨.store (.swap _ change _), .ok (.applied _)⟩ => some change
  | _ => none

theorem eq_of_applied? {x : Exchange interface} {change : StatusSwap}
    (h : applied? x = some change) :
    ∃ pools ttl held, x = ⟨.store (.swap pools change ttl), .ok (.applied held)⟩ := by
  obtain ⟨r, reply⟩ := x
  cases r with
  | store c =>
    cases c with
    | swap pools asked ttl =>
      rcases reply with e | held | found
      · cases h
      · cases h
        exact ⟨pools, ttl, held, rfl⟩
      · cases h
    | push queue pools job label ttl => cases h
    | start pools max ttl => cases h
    | status name => cases h
    | pool pools which => cases h
  | post t => cases h

/-- A change of state succeeds with one swap applied, or fails with none. -/
theorem apply_path {l : Ledger} {key : JobKey} {state : QueueState} {superseded : Bool}
    {trace : List (Exchange interface)} {q : Prog interface (Result Transition)}
    (h : (l.apply key state superseded).Path trace q) :
    (trace.filterMap applied? = [] ∧ ∀ result, q = .done result → ∃ e, result = .error e) ∨
      ∃ current : QueueState, current.canBecome state = true ∧
        trace.filterMap applied? = [l.swapOf key current state] ∧
        ∀ result, q = .done result → ∃ t, result = .ok t := by
  have hfail : ∀ {trace : List (Exchange interface)} {q : Prog interface (Result Transition)}
      {e : SchedulerError}, (Prog.done (.error e)).Path trace q →
      trace = [] ∧ ∀ result, q = .done result → ∃ e, result = .error e := by
    intro trace q e hd
    obtain ⟨rfl, rfl⟩ := hd.done_inv
    exact ⟨rfl, fun _ hr => ⟨e, (Prog.done.inj hr).symm⟩⟩
  rw [apply_eq] at h
  obtain ⟨rfl, rfl⟩ | ⟨answer, rest, rfl, hread⟩ := h.ask_inv
  · exact .inl ⟨rfl, fun _ hr => by cases hr⟩
  cases answer with
  | error e =>
    obtain ⟨rfl, hq⟩ := hfail hread
    exact .inl ⟨rfl, hq⟩
  | ok raw =>
    dsimp only at hread
    split at hread
    · obtain ⟨rfl, hq⟩ := hfail hread
      exact .inl ⟨rfl, hq⟩
    · obtain ⟨rfl, hq⟩ := hfail hread
      exact .inl ⟨rfl, hq⟩
    · next current _ =>
      split at hread
      · next hc =>
        obtain ⟨rfl, rfl⟩ | ⟨reply, rest, rfl, hswap⟩ := hread.ask_inv
        · exact .inl ⟨rfl, fun _ hr => by cases hr⟩
        rcases reply with e | held | found
        · obtain ⟨rfl, hq⟩ := hfail hswap
          exact .inl ⟨rfl, hq⟩
        · refine .inr ⟨current, hc, ?_⟩
          obtain ⟨rfl, rfl⟩ | ⟨_, rest, rfl, hpost⟩ := hswap.ask_inv
          · exact ⟨rfl, fun _ hr => by cases hr⟩
          obtain ⟨rfl, rfl⟩ := hpost.done_inv
          exact ⟨rfl, fun _ hr => ⟨_, (Prog.done.inj hr).symm⟩⟩
        · dsimp only at hswap
          cases hf : readState found with
          | error e =>
            rw [hf] at hswap
            obtain ⟨rfl, hq⟩ := hfail hswap
            exact .inl ⟨rfl, hq⟩
          | ok state' =>
            rw [hf] at hswap
            obtain ⟨rfl, hq⟩ := hfail hswap
            exact .inl ⟨rfl, hq⟩
      · obtain ⟨rfl, hq⟩ := hfail hread
        exact .inl ⟨rfl, hq⟩

/-- A job is moved to a state if and only if the store has applied the swap that the call asked
for. -/
theorem addState_ok_iff {l : Ledger} {key : JobKey} {state : QueueState}
    {trace : List (Exchange interface)} {result : Result Transition}
    (h : (l.addState key state).Path trace (.done result)) :
    (∃ t, result = .ok t) ↔ ∃ current, l.swapOf key current state ∈ trace.filterMap applied? := by
  obtain ⟨hs, hq⟩ | ⟨current, -, hs, hq⟩ := apply_path h
  · obtain ⟨e, rfl⟩ := hq result rfl
    simp [hs]
  · exact iff_of_true (hq result rfl) ⟨current, by simp [hs]⟩

end BuildQueue.Ledger
