import BuildQueue.Orchestrator.Basic
import BuildQueue.Proofs.Prog
import BuildQueue.Proofs.Store.Structure
import BuildQueue.Serializer
import Mathlib.Data.List.Induction

/-!
# Handlers as tasks

Any number of handlers are under way at once, each as a task of its own: those that somebody outside
begins, and one for each transition that the worker takes from the mailbox. The requests of
different tasks interleave in any order (`System.run`). A task that a reply reaches late is one that
makes its next request late. What has been done to the store, and what the tasks have asked and been
answered, is on record.
-/

namespace BuildQueue.Orchestrator

/-- What an orchestrator may be told from outside. -/
inductive Occasion where
  | update (update : Update) (message : String) (error : Option String)
  | push (source : Source) (ref : GitRef) (commit : CommitId)
  | delete (source : Source)
  | outcome (outcome : JobOutcome)
  | timeout (key : JobKey)
  | release (source : Source) (branch : String) (bump : Bump)

/-- What a task was begun for. -/
inductive Duty where
  | occasion (x : Occasion)
  | transition (t : Transition)

/-- The handler as a program; what it returns is of no interest. -/
def Occasion.program (o : Orchestrator) : Occasion → Handler Unit
  | .update u message error => (o.onUpdate u message error).bind fun _ => .done ()
  | .push source ref commit => (o.onPush source ref commit).bind fun _ => .done ()
  | .delete source => (onDelete source).bind fun _ => .done ()
  | .outcome r => o.onOutcome r
  | .timeout key => o.onTimeout key
  | .release source branch bump => (o.releaseNow source branch bump).bind fun _ => .done ()

def Duty.program (o : Orchestrator) : Duty → Handler Unit
  | .occasion x => x.program o
  | .transition t => o.onTransition t

/-- A handler and what is left of it. -/
structure Task where
  duty : Duty
  rest : Handler Unit

/-- An orchestrator at work. -/
structure System where
  store : InProcess := {}
  /-- The transitions that the worker has not taken yet. -/
  posted : List Transition := []
  turns : Serializer := {}
  tasks : List Task := []
  /-- What has been done to the store. -/
  history : List StoreEvent := []
  /-- What each task has asked and been answered, by its number. -/
  journal : List (Nat × Exchange interface) := []

/-- What may happen next. -/
inductive System.Event where
  | begin (occasion : Occasion)
  /-- The worker takes a transition from the mailbox and begins a task for it. -/
  | take
  /-- A task makes its next request, at its time `now`; a call would be answered by `answer`. -/
  | step (task : Nat) (now : Int) (answer : (c : Call) → Except DomainError c.Answer)
  | advance (ms : Nat)

namespace System

/-- Answers a request. -/
def serve (s : System) (task : Nat) (now : Int)
    (answer : (c : Call) → Except DomainError c.Answer) :
    (r : interface.Request) → interface.Reply r × System
  | .inl (.store c) =>
    let (reply, store) := s.store.perform now c
    (.ok reply, { s with store, history := s.history ++ [.call c now] })
  | .inl (.post t) => ((), { s with posted := s.posted ++ [t] })
  | .inr (.acquire key) => ((), { s with turns := s.turns.arrive task key })
  | .inr .release => ((), { s with turns := (s.turns.leave task).2 })
  | .inr (.call c) => (answer c, s)
  | .inr (.log _) => ((), s)
  | .inr (.background _) => ((), s)

/-- The task waits for its turn. -/
def waits (s : System) (task : Nat) : Bool :=
  s.turns.claims.contains task && !s.turns.hasTurn task

def next (o : Orchestrator) (s : System) : Event → System
  | .begin occasion => { s with tasks := s.tasks ++ [⟨.occasion occasion, occasion.program o⟩] }
  | .take =>
    match s.posted with
    | [] => s
    | t :: posted => { s with posted, tasks := s.tasks ++ [⟨.transition t, o.onTransition t⟩] }
  | .step task now answer =>
    match s.tasks[task]? with
    | some ⟨duty, .ask r rest⟩ =>
      if s.waits task then s
      else
        let (x, t) := s.serve task now answer r
        { t with
          tasks := s.tasks.set task ⟨duty, rest x⟩
          journal := s.journal ++ [(task, ⟨r, x⟩)] }
    | _ => s
  | .advance ms =>
    { s with store := s.store.advance ms, history := s.history ++ [.advance ms] }

/-- The system after events that happen one after the other. -/
def run (o : Orchestrator) (s : System) (events : List Event) : System := events.foldl (next o) s

/-- What one task has asked and been answered. -/
def trace (s : System) (task : Nat) : List (Exchange interface) :=
  s.journal.filterMap fun entry => if entry.1 = task then some entry.2 else none

variable {o : Orchestrator} {s : System} {events : List Event}

theorem run_concat (o : Orchestrator) (s : System) (events : List Event) (e : Event) :
    s.run o (events ++ [e]) = (s.run o events).next o e :=
  List.foldl_append

/-- All that an event can do. -/
inductive Step (o : Orchestrator) (s : System) : Event → System → Prop where
  /-- Nothing. -/
  | stay (e : Event) : Step o s e s
  | begin (occasion : Occasion) : Step o s (.begin occasion)
    { s with tasks := s.tasks ++ [⟨.occasion occasion, occasion.program o⟩] }
  | take {t : Transition} {posted : List Transition} (h : s.posted = t :: posted) : Step o s .take
    { s with posted, tasks := s.tasks ++ [⟨.transition t, o.onTransition t⟩] }
  | request {task : Nat} {now : Int} {answer : (c : Call) → Except DomainError c.Answer}
    {duty : Duty} {r : interface.Request} {rest : interface.Reply r → Handler Unit}
    (h : s.tasks[task]? = some ⟨duty, .ask r rest⟩) : Step o s (.step task now answer)
    { (s.serve task now answer r).2 with
      tasks := s.tasks.set task ⟨duty, rest (s.serve task now answer r).1⟩
      journal := s.journal ++ [(task, ⟨r, (s.serve task now answer r).1⟩)] }
  | advance (ms : Nat) : Step o s (.advance ms)
    { s with store := s.store.advance ms, history := s.history ++ [.advance ms] }

theorem step_next (o : Orchestrator) (s : System) (e : Event) : Step o s e (s.next o e) := by
  cases e with
  | begin occasion => exact .begin occasion
  | take =>
    rw [next]
    split
    · exact .stay _
    · next t posted h => exact .take h
  | step task now answer =>
    rw [next]
    split
    · next duty r rest h =>
      split
      · exact .stay _
      · exact .request h
    · exact .stay _
  | advance ms => exact .advance ms

/-- What holds at first and is kept by each event holds after every run. -/
theorem run_induction {P : System → Prop} (h : P {})
    (hnext : ∀ s t e, P s → Step o s e t → P t) (events : List Event) :
    P (({} : System).run o events) := by
  induction events using List.reverseRecOn with
  | nil => exact h
  | append_singleton events e ih =>
    rw [run_concat]
    exact hnext _ _ e ih (step_next o _ e)

theorem trace_journal_concat {s t : System} {entry : Nat × Exchange interface}
    (h : t.journal = s.journal ++ [entry]) (task : Nat) :
    t.trace task = s.trace task ++ if entry.1 = task then [entry.2] else [] := by
  rw [trace, h, List.filterMap_append]
  by_cases he : entry.1 = task <;> simp [trace, he]

theorem mem_trace {n : Nat} {x : Exchange interface} : x ∈ s.trace n ↔ (n, x) ∈ s.journal := by
  rw [trace, List.mem_filterMap]
  constructor
  · rintro ⟨⟨m, y⟩, he, h⟩
    obtain ⟨rfl, e⟩ := Option.ite_none_right_eq_some.1 h
    cases e
    exact he
  · exact fun h => ⟨_, h, if_pos rfl⟩

/-- Some task has posted the transition. -/
def HasPosted (s : System) (t : Transition) : Prop :=
  ∃ entry ∈ s.journal, entry.2.request = .inl (.post t)

/-- What every run keeps. -/
structure Sound (o : Orchestrator) (s : System) : Prop where
  store : s.store = ({} : InProcess).run s.history
  known : ∀ entry ∈ s.journal, entry.1 < s.tasks.length
  /-- Each task has gone down the path of its handler. -/
  path : ∀ n (task : Task), s.tasks[n]? = some task →
    (task.duty.program o).Path (s.trace n) task.rest
  /-- Transitions in the mailbox have been posted, and so have those that tasks are about. -/
  posted : ∀ t ∈ s.posted, s.HasPosted t
  taken : ∀ task ∈ s.tasks, ∀ t, task.duty = .transition t → s.HasPosted t

namespace Sound

theorem empty : Sound o {} where
  store := rfl
  known _ h := absurd h List.not_mem_nil
  path n task h := by simp at h
  posted t h := absurd h List.not_mem_nil
  taken task h := absurd h List.not_mem_nil

/-- A task that has not begun has asked nothing. -/
theorem trace_eq_nil (hs : Sound o s) {n : Nat} (h : s.tasks.length ≤ n) : s.trace n = [] := by
  refine List.filterMap_eq_nil_iff.2 fun entry he => if_neg fun e => ?_
  exact Nat.not_le_of_lt (hs.known entry he) (e ▸ h)

/-- One more task. -/
theorem spawn (hs : Sound o s) (duty : Duty) {posted : List Transition}
    (hp : ∀ t ∈ posted, t ∈ s.posted) (hd : ∀ t, duty = .transition t → s.HasPosted t) :
    Sound o { s with posted, tasks := s.tasks ++ [⟨duty, duty.program o⟩] } where
  store := hs.store
  known entry he := by
    have := hs.known entry he
    rw [List.length_append]
    omega
  path n task hn := by
    rcases Nat.lt_trichotomy n s.tasks.length with hlt | rfl | hgt
    · rw [List.getElem?_append_left hlt] at hn
      exact hs.path n task hn
    · rw [List.getElem?_concat_length] at hn
      obtain rfl := Option.some.inj hn
      show Prog.Path _ (s.trace s.tasks.length) _
      rw [hs.trace_eq_nil (Nat.le_refl _)]
      exact .nil _
    · rw [List.getElem?_eq_none (by simp; omega)] at hn
      cases hn
  posted t ht := hs.posted t (hp t ht)
  taken task ht t hduty := by
    rcases List.mem_append.1 ht with ht | ht
    · exact hs.taken task ht t hduty
    · obtain rfl := List.mem_singleton.1 ht
      exact hd t hduty

theorem request (hs : Sound o s) {task : Nat} (now : Int)
    (answer : (c : Call) → Except DomainError c.Answer) {duty : Duty} {r : interface.Request}
    {rest : interface.Reply r → Handler Unit} (h : s.tasks[task]? = some ⟨duty, .ask r rest⟩) :
    Sound o { (s.serve task now answer r).2 with
      tasks := s.tasks.set task ⟨duty, rest (s.serve task now answer r).1⟩
      journal := s.journal ++ [(task, ⟨r, (s.serve task now answer r).1⟩)] } where
  store := by
    rcases r with (c | t) | (key | _ | c | entry | c)
    · show (s.store.perform now c).2 = ({} : InProcess).run (s.history ++ [.call c now])
      rw [hs.store, InProcess.run, InProcess.run, List.foldl_append]
      rfl
    all_goals exact hs.store
  known entry he := by
    rw [List.length_set]
    rcases List.mem_append.1 he with he | he
    · exact hs.known entry he
    · obtain rfl := List.mem_singleton.1 he
      exact (List.getElem?_eq_some_iff.1 h).1
  path n other hn := by
    rw [trace_journal_concat rfl]
    by_cases hne : task = n
    · subst hne
      obtain rfl : other = ⟨duty, rest (s.serve task now answer r).1⟩ := by
        have hlt := (List.getElem?_eq_some_iff.1 h).1
        rw [List.getElem?_set_self hlt] at hn
        exact (Option.some.inj hn).symm
      rw [if_pos rfl]
      exact (hs.path task _ h).snoc _
    · rw [List.getElem?_set_ne hne] at hn
      rw [if_neg hne, List.append_nil]
      exact hs.path n other hn
  posted t ht := by
    have hold : ∀ t ∈ s.posted, ∃ entry ∈ s.journal ++ [(task, ⟨r, (s.serve task now answer r).1⟩)],
        entry.2.request = .inl (.post t) := fun t ht => by
      obtain ⟨entry, he, hr⟩ := hs.posted t ht
      exact ⟨entry, List.mem_append_left _ he, hr⟩
    rcases r with (c | t') | (key | _ | c | entry | c)
    · exact hold t ht
    · rcases List.mem_append.1 ht with ht | ht
      · exact hold t ht
      · obtain rfl := List.mem_singleton.1 ht
        exact ⟨_, List.mem_append_right _ List.mem_cons_self, rfl⟩
    all_goals exact hold t ht
  taken other hm t hduty := by
    have hold : s.HasPosted t := by
      rcases List.mem_or_eq_of_mem_set hm with hm | rfl
      · exact hs.taken other hm t hduty
      · exact hs.taken _ (List.mem_of_getElem? h) t hduty
    obtain ⟨entry, he, hr⟩ := hold
    exact ⟨entry, List.mem_append_left _ he, hr⟩

theorem step {t : System} {e : Event} (hs : Sound o s) (ht : Step o s e t) : Sound o t := by
  cases ht with
  | stay => exact hs
  | begin x => exact hs.spawn (.occasion x) (fun _ ht => ht) fun _ h => by cases h
  | @take t posted h =>
    refine hs.spawn (.transition t) (fun _ ht => h ▸ List.mem_cons_of_mem _ ht) fun _ e => ?_
    cases e
    exact hs.posted t (h ▸ List.mem_cons_self)
  | request h => exact hs.request _ _ h
  | advance ms =>
    refine ⟨?_, hs.known, hs.path, hs.posted, hs.taken⟩
    rw [hs.store, InProcess.run, InProcess.run, List.foldl_append]
    rfl

end Sound

theorem sound_run (o : Orchestrator) (events : List Event) :
    Sound o (({} : System).run o events) :=
  run_induction .empty (fun _ _ _ hs ht => hs.step ht) events

end System

end BuildQueue.Orchestrator
