import BuildQueue.Serializer

/-!
# Calls over time

A run of timed calls on one serializer. Time moves only when every task waits; timers of one instant
go off in the order in which they were set, and tasks that can go on do so first in, first out.
-/

namespace BuildQueue.Timeline

/-- A task: at its time it counts the pending keys, or makes a call that holds its turn for a while
and is given up after a time-out. -/
structure Task where
  start : Nat
  /-- The key of the call; a task without one counts pending keys. -/
  key : Option String
  hold : Nat
  timeout : Option Nat
  deriving DecidableEq, Repr

inductive Event where
  | pending (keys : Nat)
  | start (task : Nat)
  | finish (task : Nat)
  | returned (task : Nat)
  | cancelled (task : Nat)
  deriving DecidableEq, Repr

/-- Where a task is. -/
inductive Phase where
  | asleep
  | waiting (deadline : Option Nat)
  | working (doneAt : Nat) (deadline : Option Nat)
  | over
  deriving DecidableEq, Repr

structure State where
  now : Nat
  tasks : List Task
  phases : List Phase
  serializer : Serializer
  /-- The tasks that can go on, in order. -/
  ready : List Nat
  /-- The timers in the order in which they were set: time and task. -/
  timers : List (Nat × Nat)
  /-- What happened, last first. -/
  log : List (Nat × Event)

namespace State

def emit (s : State) (e : Event) : State := { s with log := (s.now, e) :: s.log }

def setPhase (s : State) (n : Nat) (p : Phase) : State := { s with phases := s.phases.set n p }

def setTimer (s : State) (time n : Nat) : State := { s with timers := s.timers ++ [(time, n)] }

/-- Lets a task go on after those that can already. -/
def wake (s : State) (n : Nat) : State :=
  if s.ready.contains n then s else { s with ready := s.ready ++ [n] }

/-- The call of a task leaves, and the next one in line gets the turn. -/
def leave (s : State) (n : Nat) : State :=
  let (woken, serializer) := s.serializer.leave n
  let s := { s with serializer }
  match woken with
  | some m => s.wake m
  | none => s

/-- The work of a task is done. -/
def finish (s : State) (n : Nat) : State :=
  (((s.emit (.finish n)).leave n).emit (.returned n)).setPhase n .over

/-- The call of a task is given up. -/
def cancel (s : State) (n : Nat) : State := ((s.leave n).emit (.cancelled n)).setPhase n .over

/-- Whether the time of a deadline has come. -/
def isDue (s : State) (deadline : Option Nat) : Bool := deadline.any (· ≤ s.now)

/-- The task has the turn and starts to work. -/
def work (s : State) (n hold : Nat) (deadline : Option Nat) : State :=
  let s := s.emit (.start n)
  if hold = 0 then s.finish n
  else if s.isDue deadline then s.cancel n
  else (s.setPhase n (.working (s.now + hold) deadline)).setTimer (s.now + hold) n

/-- The time of a task has come. -/
def enter (s : State) (n : Nat) (t : Task) : State :=
  match t.key with
  | none => (s.emit (.pending s.serializer.pendingKeys)).setPhase n .over
  | some key =>
    let deadline := t.timeout.map (s.now + ·)
    let s := { s with serializer := s.serializer.arrive n key }
    let s := if s.serializer.hasTurn n then s.work n t.hold deadline
      else if s.isDue deadline then s.cancel n
      else s.setPhase n (.waiting deadline)
    match deadline with
    | some d => if s.phases[n]? = some .over then s else s.setTimer d n
    | none => s

/-- A task goes on as far as it can. -/
def resume (s : State) (n : Nat) : State :=
  match s.tasks[n]?, s.phases[n]? with
  | some t, some .asleep => if t.start ≤ s.now then s.enter n t else s.setTimer t.start n
  | some t, some (.waiting deadline) =>
    if s.serializer.hasTurn n then s.work n t.hold deadline
    else if s.isDue deadline then s.cancel n
    else s
  | some _, some (.working doneAt deadline) =>
    if doneAt ≤ s.now then s.finish n else if s.isDue deadline then s.cancel n else s
  | _, _ => s

/-- Moves time to the next timer and lets its tasks go on; `none` when no timer is left. -/
def advance (s : State) : Option State :=
  match (s.timers.map Prod.fst).min? with
  | none => none
  | some t =>
    let (due, later) := s.timers.partition (·.1 = t)
    some (due.foldl (fun s d => s.wake d.2) { s with now := t, timers := later })

/-- Goes on until nothing is left to happen. -/
def run : Nat → State → State
  | 0, s => s
  | fuel + 1, s =>
    match s.ready with
    | n :: rest => run fuel ({ s with ready := rest }.resume n)
    | [] =>
      match s.advance with
      | some s => run fuel s
      | none => s

end State

/-- Before anything has happened: all tasks can go on, in order. -/
def initial (tasks : List Task) : State where
  now := 0
  tasks
  phases := tasks.map fun _ => .asleep
  serializer := {}
  ready := List.range tasks.length
  timers := []
  log := []

/-- Runs tasks to their end. Each task is resumed at most once at first, once for each of its three
timers and once when it gets its turn, and each timer moves time at most once. -/
def run (tasks : List Task) : State := (initial tasks).run (8 * tasks.length + 1)

/-- What happened, in order. -/
def events (tasks : List Task) : List (Nat × Event) := (run tasks).log.reverse

end BuildQueue.Timeline
