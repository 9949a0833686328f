import BuildQueue.Proofs.Job.Key
import BuildQueue.Proofs.Ledger.Clients
import BuildQueue.Proofs.Store.View

/-!
# Calls that nobody interrupts

What a call of the ledger does to the store when it runs to its end with no step of another call in
between.
-/

namespace BuildQueue.Ledger

variable {α β : Type} {l : Ledger} {w : Surroundings} {key : JobKey}

/-- A program and what follows it, which starts at some later reading of the clock. -/
theorem complete_bind (p : Prog interface α) (f : α → Prog interface β) (times : Nat → Int)
    (w : Surroundings) : ∃ later, complete times (p >>= f) w =
      complete later (f (complete times p w).1) (complete times p w).2 := by
  induction p generalizing times w with
  | done a => exact ⟨times, rfl⟩
  | ask r next ih => exact ih _ _ _

/-- Two programs in a row that give nothing back. -/
theorem complete_pair (p q : Prog interface Unit) (a : α) (times : Nat → Int) (w : Surroundings) :
    ∃ later, complete times (p >>= fun _ => q >>= fun _ => pure a) w =
      (a, (complete later q (complete times p w).2).2) := by
  obtain ⟨later, hp⟩ := complete_bind p (fun _ => q >>= fun _ => pure a) times w
  obtain ⟨_, hq⟩ := complete_bind q (fun _ => pure a) later (complete times p w).2
  exact ⟨later, hp.trans hq⟩

theorem complete_discard (p : Prog interface α) (times : Nat → Int) (w : Surroundings) :
    (complete times (p.bind fun _ => .done ()) w).2 = (complete times p w).2 := by
  obtain ⟨_, h⟩ := complete_bind p (fun _ => .done ()) times w
  exact congrArg Prod.snd h

theorem readState_name (state : QueueState) : readState (some state.name) = .ok (some state) := by
  rw [readState, QueueState.parse, state.ofName?_name]
  rfl

theorem readState_map_name (state : Option QueueState) :
    readState (state.map QueueState.name) = .ok state := by
  cases state with
  | none => rfl
  | some state => exact readState_name state

theorem readState_eq_some {raw : Option String} {state : QueueState}
    (h : readState raw = .ok (some state)) : raw = some state.name := by
  cases raw with
  | none => cases h
  | some text =>
    rw [readState, QueueState.parse] at h
    cases hn : QueueState.ofName? text with
    | none =>
      rw [hn] at h
      cases h
    | some found =>
      rw [hn] at h
      obtain rfl : found = state := by
        cases h
        rfl
      have hname := List.find?_some hn
      exact congrArg some (eq_of_beq hname).symm

/-! ## Changes of state -/

section Apply

variable (state : QueueState) (superseded : Bool) (times : Nat → Int)

theorem complete_apply_none (h : w.store.status? (l.layout.status key) = none) :
    complete times (l.apply key state superseded) w =
      (.error (.illegalTransition key.text none state), w) := by
  show complete (fun n => times (n + 1)) (Prog.bind (.done (readState (w.store.status? _))) _) w = _
  rw [h]
  rfl

variable {state} {current : QueueState}
  (h : w.store.status? (l.layout.status key) = some current.name)
include h

theorem complete_apply_illegal (hc : ¬ current.canBecome state = true) :
    complete times (l.apply key state superseded) w =
      (.error (.illegalTransition key.text (some current) state), w) := by
  show complete (fun n => times (n + 1)) (Prog.bind (.done (readState (w.store.status? _))) _) w = _
  rw [h, readState_name, Prog.done_bind]
  dsimp only
  rw [if_neg hc]
  rfl

theorem complete_apply (hc : current.canBecome state = true) :
    ∃ now, (complete times (l.apply key state superseded) w).2.store =
      if state.isTerminal then
        ((w.store.setStatus (l.layout.pools.status key.text) state.name l.ttl).retire
          (l.layout.home key.text) l.layout.pools key.text now).2
      else w.store.setStatus (l.layout.pools.status key.text) state.name l.ttl := by
  refine ⟨times 1, ?_⟩
  obtain ⟨_, hswap⟩ :=
    @InProcess.swap_of_eq w.store l.layout.pools (l.swapOf key current state) h l.ttl (times 1)
  rw [l.layout.home_text]
  refine Eq.trans ?_ (congrArg Prod.snd hswap)
  show (complete (fun n => times (n + 1))
    (Prog.bind (.done (readState (w.store.status? _))) _) w).2.store = _
  rw [h, readState_name, Prog.done_bind]
  dsimp only
  rw [if_pos hc]
  show (complete (fun n => times (n + 2)) (Prog.bind (.done (Except.ok (w.store.swap _ _ _ _).1)) _)
    ⟨(w.store.swap _ _ _ _).2, w.posted⟩).2.store = _
  rw [Prog.done_bind]
  cases (w.store.swap l.layout.pools (l.swapOf key current state) l.ttl (times 1)).1 <;> rfl

end Apply

theorem complete_supersede (state : QueueState) (times : Nat → Int) :
    (complete times (l.supersede (some key) state) w).2 =
      (complete times (l.apply key state true) w).2 :=
  complete_discard _ _ _

/-! ## Pushes and starts -/

theorem complete_push_of_mem (h : key.text ∈ w.store.queue (l.layout.queue key))
    (times : Nat → Int) : complete times (l.push key) w =
      (.ok ⟨(w.store.queue (l.layout.queue key)).length, none, none, true⟩, w) := by
  show complete (fun n => times (n + 1))
    (Prog.bind (.done (Except.ok (w.store.push _ _ _ _ _ _).1)) _)
    ⟨(w.store.push _ _ _ _ _ _).2, w.posted⟩ = _
  rw [w.store.push_of_mem _ _ _ _ h]
  rfl

theorem readJob_map_text (job : Option JobKey) : readJob (job.map JobKey.text) = .ok job := by
  cases job with
  | none => rfl
  | some key =>
    rw [Option.map_some, readJob, key.parse_text]
    rfl

/-- The keys of displaced jobs are read back from the reply of the store. -/
theorem displaced_map_text (size : Nat) (cancelled aborted : Option JobKey) (duplicate : Bool)
    (previous : Option String) :
    displaced ⟨size, cancelled.map JobKey.text, aborted.map JobKey.text, duplicate, previous⟩ =
      .ok (cancelled, aborted) := by
  rw [displaced]
  dsimp only
  rw [readJob_map_text, readJob_map_text]
  rfl

/-- The jobs that a push displaces are the last that waits in its queue and the last that runs. -/
theorem displaced_push {s : InProcess} {pools : PoolKeys} {queue job : String}
    (h : job ∉ s.queue queue) {waiting running : Option JobKey}
    (hw : (s.waitingIn queue pools).getLast? = waiting.map JobKey.text)
    (hr : (s.runningIn queue pools).getLast? = running.map JobKey.text) (label : String) (ttl : Nat)
    (now : Int) : ¬ (s.push queue pools job label ttl now).1.duplicate = true ∧
      displaced (s.push queue pools job label ttl now).1 = .ok (waiting, running) := by
  have hreply := congrArg Prod.fst (s.push_of_not_mem pools label ttl now h)
  rw [hw, hr] at hreply
  rw [hreply]
  exact ⟨Bool.false_ne_true, displaced_map_text _ _ _ _ _⟩

section Push

variable (h : key.text ∉ w.store.queue (l.layout.queue key)) {waiting running : Option JobKey}
  (hw : (w.store.waitingIn (l.layout.queue key) l.layout.pools).getLast? =
    waiting.map JobKey.text)
  (hr : (w.store.runningIn (l.layout.queue key) l.layout.pools).getLast? =
    running.map JobKey.text)
  (times : Nat → Int)
include h hw hr

/-- What a push that is no duplicate still has to do when the store has taken it. -/
theorem complete_push_start : complete times (l.push key) w =
    complete (fun n => times (n + 2))
      (l.supersede waiting .cancelled >>= fun _ => l.supersede running .aborted >>= fun _ =>
        pure (.ok ⟨(w.store.runningIn (l.layout.queue key) l.layout.pools).length + 1, waiting,
          running, false⟩))
      ⟨(w.store.push (l.layout.queue key) l.layout.pools key.text key.canonicalId l.ttl
          (times 0)).2,
        w.posted ++ [⟨key, .queued, readableState (w.store.status? (l.layout.status key)),
          false⟩]⟩ := by
  obtain ⟨hdup, hd⟩ := displaced_push h hw hr key.canonicalId l.ttl (times 0)
  have hreply :=
    congrArg Prod.fst (w.store.push_of_not_mem l.layout.pools key.canonicalId l.ttl (times 0) h)
  show complete (fun n => times (n + 1))
    (Prog.bind (.done (Except.ok (w.store.push _ _ _ _ _ _).1)) _)
    ⟨(w.store.push _ _ _ _ _ _).2, w.posted⟩ = _
  rw [Prog.done_bind]
  dsimp only
  rw [if_neg hdup]
  rw [hreply] at hd
  simp only [hreply, hd]
  rfl

/-- A push that is no duplicate supersedes the waiting job of the queue and then the running one. -/
theorem complete_push : ∃ size posted first second, complete times (l.push key) w =
    (.ok ⟨size, waiting, running, false⟩,
      (complete second (l.supersede running .aborted)
        (complete first (l.supersede waiting .cancelled)
          ⟨(w.store.push (l.layout.queue key) l.layout.pools key.text key.canonicalId l.ttl
            (times 0)).2, posted⟩).2).2) := by
  rw [complete_push_start h hw hr times]
  obtain ⟨later, hl⟩ := complete_pair (l.supersede waiting .cancelled)
    (l.supersede running .aborted) _ (fun n => times (n + 2)) ⟨_, _⟩
  exact ⟨_, _, _, later, hl⟩

end Push

/-! ## Starts -/

theorem complete_announce (jobs : List String) (times : Nat → Int) (w : Surroundings) :
    (complete times (announce jobs) w).2.store = w.store := by
  induction jobs generalizing times w with
  | nil => rfl
  | cons raw rest ih =>
    rw [announce]
    split
    · exact ih _ _
    · next key _ =>
      obtain ⟨later, h⟩ := complete_bind (announce rest) (fun keys => pure (key :: keys))
        (fun n => times (n + 1)) (serve (times 0) w (.post ⟨key, .starting, some .queued, false⟩)).2
      exact (congrArg (·.2.store) h).trans (ih _ _)

theorem complete_start (max : Nat) (times : Nat → Int) (w : Surroundings) :
    (complete times (l.start max) w).2.store =
      (w.store.start l.layout.pools max l.ttl (times 0)).2 := by
  obtain ⟨later, h⟩ := complete_bind
    (announce (w.store.start l.layout.pools max l.ttl (times 0)).1.admitted)
    (fun keys => pure (Except.ok keys : Result (List JobKey))) (fun n => times (n + 1))
    ⟨(w.store.start l.layout.pools max l.ttl (times 0)).2, w.posted⟩
  exact (congrArg (·.2.store) h).trans (complete_announce _ _ _)

end BuildQueue.Ledger
