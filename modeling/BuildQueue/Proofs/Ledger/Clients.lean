import BuildQueue.Ledger
import Mathlib.Data.List.Induction

/-!
# Clients that share a store

The clients of one deployment call the ledger. A call is a program, each request of it is one step,
and the steps of different calls interleave in any order (`System.run`). A client that nobody
interrupts takes all the steps of its call in a row (`complete`).
-/

namespace BuildQueue.Ledger

/-- What calls take effect on: a store, and what has been posted so far. -/
structure Surroundings where
  store : InProcess := {}
  posted : List Transition := []

/-- Answers a request at the time `now` of whoever asks. -/
def serve (now : Int) (w : Surroundings) : (r : Request) → Reply r × Surroundings
  | .store call =>
    let (answer, store) := w.store.perform now call
    (.ok answer, { w with store })
  | .post t => ((), { w with posted := w.posted ++ [t] })

/-- Runs a program to its end. Whoever runs it reads the time `times 0` at the first request,
`times 1` at the second and so on. -/
def complete {α : Type} (times : Nat → Int) : Prog interface α → Surroundings → α × Surroundings
  | .done a, w => (a, w)
  | .ask r next, w =>
    let (x, w) := serve (times 0) w r
    complete (fun n => times (n + 1)) (next x) w

/-- A call of the ledger that may change something. -/
inductive Operation where
  | push (key : JobKey)
  | start (max : Nat)
  | addState (key : JobKey) (state : QueueState)
  deriving DecidableEq, Repr

/-- The call as a program; what it returns is of no interest. -/
def Operation.program (l : Ledger) : Operation → Prog interface Unit
  | push key => (l.push key).bind fun _ => .done ()
  | start max => (l.start max).bind fun _ => .done ()
  | addState key state => (l.addState key state).bind fun _ => .done ()

/-- A store that clients share, and what each of them has still to do. -/
structure System (Client : Type) where
  surroundings : Surroundings := {}
  running : Client → Prog interface Unit := fun _ => .done ()

/-- What may happen next. -/
inductive Event (Client : Type) where
  /-- A client calls the ledger, if it is not in the middle of a call. -/
  | call (client : Client) (ttl : Nat) (op : Operation)
  /-- A client makes the next request of its call, at its time `now`. -/
  | step (client : Client) (now : Int)
  | advance (ms : Nat)

namespace System

variable {Client : Type} [DecidableEq Client]

/-- The store that the clients share. -/
def store (s : System Client) : InProcess := s.surroundings.store

/-- The client has no call under way. -/
def idle (s : System Client) (client : Client) : Bool :=
  match s.running client with
  | .done _ => true
  | .ask .. => false

def next (layout : KeyLayout) (s : System Client) : Event Client → System Client
  | .call client ttl op =>
    match s.running client with
    | .done _ => { s with running := Function.update s.running client (op.program ⟨layout, ttl⟩) }
    | .ask .. => s
  | .step client now =>
    match s.running client with
    | .done _ => s
    | .ask r next =>
      let (x, w) := serve now s.surroundings r
      ⟨w, Function.update s.running client (next x)⟩
  | .advance ms => { s with surroundings.store := s.store.advance ms }

/-- The system after events that happen one after the other. -/
def run (layout : KeyLayout) (s : System Client) (events : List (Event Client)) : System Client :=
  events.foldl (next layout) s

omit [DecidableEq Client] in
theorem running_of_idle {s : System Client} {client : Client} (h : s.idle client = true) :
    s.running client = .done () := by
  unfold idle at h
  split at h
  · next hd => exact hd
  · cases h

theorem run_concat (layout : KeyLayout) (s : System Client) (events : List (Event Client))
    (e : Event Client) : s.run layout (events ++ [e]) = (s.run layout events).next layout e :=
  List.foldl_append

/-- What holds at first and is kept by each event of a run where it happens holds at the end. -/
theorem run_induction {layout : KeyLayout} {P : System Client → Prop} {s : System Client}
    {events : List (Event Client)} (h : P s)
    (hnext : ∀ before e, before ++ [e] <+: events → P (s.run layout before) →
      P ((s.run layout before).next layout e)) : P (s.run layout events) := by
  induction events using List.reverseRecOn with
  | nil => exact h
  | append_singleton events e ih =>
    rw [run_concat]
    refine hnext events e List.prefix_rfl (ih fun before e' hp => ?_)
    exact hnext before e' (hp.trans (List.prefix_append _ _))

/-- A step of a client in the middle of a call. -/
theorem next_step (layout : KeyLayout) {s : System Client} {client : Client} {r : Request}
    {rest : Reply r → Prog interface Unit} (h : s.running client = .ask r rest) (now : Int) :
    s.next layout (.step client now) =
      ⟨(serve now s.surroundings r).2,
        Function.update s.running client (rest (serve now s.surroundings r).1)⟩ := by
  rw [next, h]

end System

/-- Updates of one repository that compete for one branch. -/
def rival (id : String) : JobKey where
  source := ⟨"g", "w"⟩
  ref := .update id "m"
  commit := ⟨List.replicate 40 0, .inl List.length_replicate⟩

end BuildQueue.Ledger
