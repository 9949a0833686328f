import BuildQueue.Proofs.Ledger.History
import BuildQueue.Proofs.Orchestrator.Requests

/-!
# What the journal tells

The journal of a run tells all that matters of the store: each write of a status is one that some
task was told of (`writes_eq`), and these writes go along the transition table (`history_run`). And
every entry of the journal was once the request that a task was about to make, with all the entries
before it on record then (`exists_run_of_journal`).
-/

namespace BuildQueue.Orchestrator

/-- What the store has written to a status in the exchange. -/
def written? (name : String) : Exchange interface → Option StatusWrite
  | ⟨.inl (.store (.push _ pools job _ _)), .ok reply⟩ =>
    if name = pools.status job ∧ PushReply.duplicate reply = false then some .queued else none
  | ⟨.inl (.store (.start pools _ _)), .ok reply⟩ =>
    if ∃ job ∈ StartReply.admitted reply, name = pools.status job then some .admitted else none
  | ⟨.inl (.store (.swap pools change _)), .ok (.applied _)⟩ =>
    if name = pools.status change.job then some (.swapped change.expected change.next) else none
  | _ => none

/-- The call that was made, if the exchange is about one. -/
def call? : Exchange interface → Option Call
  | ⟨.inr (.call c), _⟩ => some c
  | _ => none

/-- Only a handler that may do so makes a call. -/
theorem calls_of_rule {o : Orchestrator} {sc : Scope} {last : Option (Exchange interface)}
    {x : Exchange interface} (h : o.Rule sc last x.request) {c : Call} (hx : call? x = some c) :
    sc.calls last c := by
  obtain ⟨r | r, reply⟩ := x
  · cases hx
  · cases r with
    | call c' =>
      cases hx
      exact h
    | _ => cases hx

namespace System

variable {o : Orchestrator} {s : System} {n : Nat} {events : List Event}

/-- The writes of a job's status so far. -/
def writes (o : Orchestrator) (key : JobKey) (s : System) : List StatusWrite :=
  ({} : InProcess).writes (o.ledger.layout.status key) s.history

/-- A request to the store is answered by what it writes. -/
theorem write?_eq_written? (s : InProcess) (c : StoreCall) (now : Int) (name : String) :
    s.write? (.call c now) name =
      written? name ⟨.inl (.store c), .ok (s.perform now c).1⟩ := by
  cases c with
  | push queue pools job label ttl => rfl
  | start pools max ttl => rfl
  | swap pools change ttl =>
    simp only [InProcess.write?, InProcess.perform]
    cases (s.swap pools change ttl now).1 <;> rfl
  | status name => rfl
  | pool pools which => rfl

/-- A task asks for what its duty allows after the last exchange that it had. -/
theorem Sound.rule (hs : Sound o s) {duty : Duty} {r : interface.Request}
    {rest : interface.Reply r → Handler Unit} (h : s.tasks[n]? = some ⟨duty, .ask r rest⟩) :
    o.Rule (duty.scope o) (s.trace n).getLast? r := by
  have := (Prog.Obeys.of_path (hs.path n _ h) (duty.obeys o)).1.1
  rwa [Option.or_none] at this

theorem Sound.rule_of_mem (hs : Sound o s) {task : Task} (h : s.tasks[n]? = some task)
    {before after : List (Exchange interface)} {x : Exchange interface}
    (e : s.trace n = before ++ x :: after) :
    o.Rule (task.duty.scope o) before.getLast? x.request := by
  have := (Prog.Obeys.of_path (hs.path n _ h) (task.duty.obeys o)).2 before x after e
  rwa [Option.or_none] at this

/-- An entry of the journal is what its task was allowed to ask. -/
theorem Sound.rule_of_entry (hs : Sound o s) {x : Exchange interface} (h : (n, x) ∈ s.journal) :
    ∃ task, s.tasks[n]? = some task ∧ ∃ last, o.Rule (task.duty.scope o) last x.request := by
  obtain ⟨before, after, e⟩ := List.append_of_mem (mem_trace.2 h)
  have htask := List.getElem?_eq_getElem (hs.known _ h)
  exact ⟨_, htask, _, hs.rule_of_mem htask e⟩

/-- The writes of a status are those that tasks were told of. -/
theorem writes_eq (o : Orchestrator) (events : List Event) (key : JobKey) :
    (({} : System).run o events).writes o key = (({} : System).run o events).journal.filterMap
      fun entry => written? (o.ledger.layout.status key) entry.2 := by
  refine (run_induction (P := fun s => Sound o s ∧ s.writes o key = s.journal.filterMap
    fun entry => written? (o.ledger.layout.status key) entry.2) ⟨.empty, rfl⟩ ?_ events).2
  rintro s t e ⟨hs, hw⟩ ht
  refine ⟨hs.step ht, ?_⟩
  cases ht with
  | @request task now answer duty r rest h =>
    rcases r with (c | t) | (_ | _ | c | entry | c)
    · show InProcess.writes {} (o.ledger.layout.status key) (s.history ++ [.call c now]) = _
      rw [writes] at hw
      rw [InProcess.writes_concat, hw, ← hs.store, write?_eq_written?, List.filterMap_append]
      simp only [serve, List.filterMap_cons, List.filterMap_nil]
      split <;> simp [*]
    all_goals exact hw.trans (by simp [written?])
  | advance ms =>
    show InProcess.writes {} (o.ledger.layout.status key) (s.history ++ [.advance ms]) = _
    rw [writes] at hw
    rw [InProcess.writes_concat, hw]
    simp [InProcess.write?]
  | stay => exact hw
  | begin => exact hw
  | take => exact hw

/-- Tasks use the store as the ledger does. -/
theorem lawful_history (o : Orchestrator) (events : List Event) :
    ∀ e ∈ (({} : System).run o events).history, Ledger.LawfulEvent o.ledger.layout e := by
  refine (run_induction (P := fun s => Sound o s ∧
    ∀ e ∈ s.history, Ledger.LawfulEvent o.ledger.layout e) ⟨.empty, by simp⟩ ?_ events).2
  rintro s t e ⟨hs, hl⟩ ht
  refine ⟨hs.step ht, ?_⟩
  cases ht with
  | @request task now answer duty r rest h =>
    rcases r with (c | t) | (_ | _ | c | entry | c)
    · refine List.forall_mem_append.2 ⟨hl, List.forall_mem_singleton.2 ?_⟩
      exact ⟨_, (hs.rule h).1⟩
    all_goals exact hl
  | advance ms => exact List.forall_mem_append.2 ⟨hl, List.forall_mem_singleton.2 trivial⟩
  | stay => exact hl
  | begin => exact hl
  | take => exact hl

theorem history_run (o : Orchestrator) (events : List Event) (key : JobKey) :
    History ((({} : System).run o events).writes o key) :=
  Ledger.history_writes (lawful_history o events) key.text

/-- The journal grows by what a task has asked and been answered. -/
theorem Step.journal {t : System} {e : Event} (h : Step o s e t) :
    t.journal = s.journal ∨ ∃ n now answer duty r rest, s.tasks[n]? = some ⟨duty, .ask r rest⟩ ∧
      t.journal = s.journal ++ [(n, ⟨r, (s.serve n now answer r).1⟩)] := by
  cases h with
  | request h => exact .inr ⟨_, _, _, _, _, _, h, rfl⟩
  | stay => exact .inl rfl
  | begin => exact .inl rfl
  | take => exact .inl rfl
  | advance => exact .inl rfl

/-- Before an entry was put on record, its task was about to make the request that it is about. -/
theorem exists_run_of_journal {before after : List (Nat × Exchange interface)}
    {x : Exchange interface}
    (h : (({} : System).run o events).journal = before ++ (n, x) :: after) :
    ∃ events' now answer duty rest, let s := ({} : System).run o events'
      s.journal = before ∧ s.tasks[n]? = some ⟨duty, .ask x.request rest⟩ ∧
        x.reply = (s.serve n now answer x.request).1 := by
  induction events using List.reverseRecOn generalizing after with
  | nil => exact absurd h (by simp [run])
  | append_singleton events e ih =>
    rw [run_concat] at h
    rcases (step_next o (({} : System).run o events) e).journal with
      hsame | ⟨task, now, answer, duty, r, rest, hask, hnext⟩
    · exact ih (hsame ▸ h)
    · rw [hnext] at h
      -- The entry is the one that the last event has added, or was on record before.
      obtain rfl | ⟨after, last, rfl⟩ := after.eq_nil_or_concat'
      · obtain ⟨rfl, e⟩ := List.append_inj' h rfl
        cases e
        exact ⟨events, now, answer, duty, rest, rfl, hask, rfl⟩
      · rw [← List.cons_append, ← List.append_assoc] at h
        exact ih (List.append_inj' h rfl).1

end System

/-! ## A deployment in which all goes well -/

/-- An orchestrator of one repository, which merges nothing. -/
def solo : Orchestrator where
  ledger := ⟨⟨"builds"⟩, 1000⟩
  config := { repositories := [{ source := ⟨"g", "w"⟩ }] }
  logBase := ""

/-- The answers of systems that do as they are asked. -/
def obliging : (c : Call) → Except DomainError c.Answer
  | .rebase .. => .ok .upToDate
  | .merge .. => .ok "m"
  | .branchHead .. => .ok (Ledger.rival "1").commit
  | .nextVersion .. => .ok ⟨0, 0, 1⟩
  | .hasBuildDefinition .. => .ok true
  | .dependencyGraph .. => .ok .empty
  | .publish _ => .ok []
  | .setValidBuild .. | .createTag .. | .createBranch .. | .invalidateGit _ | .invalidateModel _
  | .rescan .. | .startJob _ | .abortJob _ => .ok ()

/-- An update of the repository was opened; its job is one of `Ledger.rival`. -/
def opened (id : String) : Occasion :=
  .update ⟨⟨"g", "w"⟩, id, "m", (Ledger.rival id).commit⟩ "" none

/-- Requests that a task makes in a row. -/
def steps (task count : Nat) : List System.Event := .replicate count (.step task 0 obliging)

end BuildQueue.Orchestrator
