import BuildQueue.Proofs.Orchestrator.Tasks
import BuildQueue.Proofs.Job.Key
import BuildQueue.Worker

/-!
# An orchestrator that works alone

One handler after the other runs to its end, on a store that nobody else uses. What the systems
around answer and report at a request, and how long that takes, depends on all that they have seen
(`serve`). The worker handles one event after the other until there is none (`Settles`). `Reached`
are the sites that come about in this way.
-/

namespace BuildQueue

namespace Mailbox

variable {m m' : Mailbox} {e : Event}

/-- The event that is taken is the first of the transitions, or of the reports if there is no
transition. -/
theorem take?_eq_some (h : m.take? = some (e, m')) :
    (∃ t, e = .transition t ∧ m.transitions = t :: m'.transitions ∧ m.outcomes = m'.outcomes) ∨
      ∃ r, e = .outcome r ∧ m.transitions = m'.transitions ∧ m.outcomes = r :: m'.outcomes := by
  obtain ⟨transitions, outcomes⟩ := m
  unfold take? at h
  rcases transitions with _ | ⟨t, rest⟩
  · rcases outcomes with _ | ⟨r, rest⟩
    · cases h
    · cases h
      exact .inr ⟨r, rfl, rfl, rfl⟩
  · cases h
    exact .inl ⟨t, rfl, rfl, rfl⟩

theorem take?_eq_none (h : m.take? = none) : m = {} := by
  obtain ⟨transitions, outcomes⟩ := m
  unfold take? at h
  rcases transitions with _ | ⟨t, rest⟩
  · rcases outcomes with _ | ⟨r, rest⟩
    · rfl
    · cases h
  · cases h

end Mailbox

namespace Orchestrator

/-- What goes on while a request is answered. -/
structure Moment where
  /-- How long that takes, in milliseconds. -/
  elapsed : Nat := 0
  /-- The time of day that whoever asks reads. -/
  now : Int := 0
  answer : (c : Call) → Except DomainError c.Answer
  /-- What the executor reports in the meantime. -/
  reports : List JobOutcome := []

/-- Where an orchestrator works: a store, the events that wait, and the systems around. -/
structure Site (σ : Type) where
  store : InProcess := {}
  mailbox : Mailbox := {}
  around : σ

variable {σ : Type}

namespace Site

/-- A moment passes. -/
def after (s : Site σ) (m : Moment) (around : σ) : Site σ where
  store := s.store.advance m.elapsed
  mailbox := { s.mailbox with outcomes := s.mailbox.outcomes ++ m.reports }
  around := around

/-- The moment of a request passes. -/
def pass (react : σ → interface.Request → Moment × σ) (r : interface.Request) (s : Site σ) :
    Site σ :=
  s.after (react s.around r).1 (react s.around r).2

/-- Answers a request. -/
def serve (react : σ → interface.Request → Moment × σ) (r : interface.Request) (s : Site σ) :
    interface.Reply r × Site σ :=
  let m := (react s.around r).1
  let s := s.pass react r
  match r with
  | .inl (.store c) =>
    let done := s.store.perform m.now c
    (.ok done.1, { s with store := done.2 })
  | .inl (.post t) => ((), { s with mailbox := s.mailbox.post t })
  | .inr (.acquire _) => ((), s)
  | .inr .release => ((), s)
  | .inr (.call c) => (m.answer c, s)
  | .inr (.log _) => ((), s)
  | .inr (.background _) => ((), s)

/-- The site at the end of a handler. -/
def run (react : σ → interface.Request → Moment × σ) (p : Handler Unit) (s : Site σ) : Site σ :=
  (p.run (serve react) s).2

/-- The worker takes the next event and handles it to its end. -/
def handleNext (o : Orchestrator) (react : σ → interface.Request → Moment × σ) (s : Site σ) :
    Option (Site σ) :=
  s.mailbox.take?.map fun (e, mailbox) => { s with mailbox }.run react (o.handle e)

/-- The worker handles `n` events, and then there is none left. -/
inductive Settles (o : Orchestrator) (react : σ → interface.Request → Moment × σ) :
    Site σ → Nat → Site σ → Prop where
  | idle {s : Site σ} (h : s.mailbox.take? = none) : Settles o react s 0 s
  | next {s t u : Site σ} {n : Nat} (h : s.handleNext o react = some t)
    (ht : Settles o react t n u) : Settles o react s (n + 1) u

/-- The site comes about when occasions are handled, the executor reports, time passes, and the
worker is let loose now and then. -/
inductive Reached (o : Orchestrator) (react : σ → interface.Request → Moment × σ) :
    Site σ → Prop where
  | start (around : σ) : Reached o react { around }
  | occasion {s : Site σ} (hs : Reached o react s) (x : Occasion) :
    Reached o react (s.run react (x.program o))
  | report {s : Site σ} (hs : Reached o react s) (r : JobOutcome) :
    Reached o react { s with mailbox := s.mailbox.report r }
  | advance {s : Site σ} (hs : Reached o react s) (ms : Nat) :
    Reached o react { s with store := s.store.advance ms }
  | settle {s t : Site σ} {n : Nat} (hs : Reached o react s) (h : Settles o react s n t) :
    Reached o react t

variable {o : Orchestrator} {react : σ → interface.Request → Moment × σ} {s t : Site σ} {n : Nat}

/-- The worker stops where there is nothing to take. -/
theorem Settles.take?_eq_none (h : Settles o react s n t) : t.mailbox.take? = none := by
  induction h with
  | idle h => exact h
  | next _ _ ih => exact ih

/-- Follows the worker for `fuel` events at most. -/
def settle? (o : Orchestrator) (react : σ → interface.Request → Moment × σ) :
    Nat → Site σ → Option (Nat × Site σ)
  | 0, s => if s.mailbox.take?.isNone then some (0, s) else none
  | fuel + 1, s =>
    match s.handleNext o react with
    | none => some (0, s)
    | some t => (settle? o react fuel t).map fun (n, u) => (n + 1, u)

theorem settles_of_settle? {fuel : Nat} (h : settle? o react fuel s = some (n, t)) :
    Settles o react s n t := by
  induction fuel generalizing s n with
  | zero =>
    rw [settle?] at h
    split at h
    · next hi =>
      cases h
      exact .idle (Option.isNone_iff_eq_none.1 hi)
    · cases h
  | succ fuel ih =>
    rw [settle?] at h
    split at h
    · next hn =>
      cases h
      exact .idle (Option.map_eq_none_iff.1 hn)
    · next u hn =>
      obtain ⟨⟨m, v⟩, hv, e⟩ := Option.map_eq_some_iff.1 h
      cases e
      exact .next hn (ih hv)

/-! ## What requests do to the lanes -/

/-- The store is on lanes. -/
def OnLanes (layout : KeyLayout) (s : Site σ) : Prop :=
  ∃ lane, s.store.Follows layout.pools layout.home lane

variable {layout : KeyLayout}

theorem OnLanes.pass (h : s.OnLanes layout) (react : σ → interface.Request → Moment × σ)
    (r : interface.Request) : (s.pass react r).OnLanes layout := by
  obtain ⟨lane, hf⟩ := h
  exact ⟨lane, hf.advance _⟩

theorem OnLanes.setStatus (h : s.OnLanes layout) (name text : String) (ttl : Nat) :
    { s with store := s.store.setStatus name text ttl }.OnLanes layout := by
  obtain ⟨lane, hf⟩ := h
  exact ⟨lane, hf.setStatus name text ttl⟩

theorem OnLanes.perform (h : s.OnLanes layout) {c : StoreCall}
    (hc : c.Respects layout.pools layout.home) (now : Int) :
    { s with store := (s.store.perform now c).2 }.OnLanes layout := by
  obtain ⟨lane, hf⟩ := h
  exact hf.perform layout.pools_distinct hc now

end Site

end Orchestrator

end BuildQueue
