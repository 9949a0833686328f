import BuildQueue.Proofs.Orchestrator.Tasks
import BuildQueue.Proofs.Serializer.Turns

/-!
# Turns of repositories

What a handler does in version control or in the version model of a repository it does in its turn:
it asks for the turn of a key, makes one call and gives the turn back (`Hold.move`). The keys are
made of the names of the repositories, and the names of two repositories are the same if a part of
the path of one is at the end of the id of the other (`Source.display_eq_iff`). So in each run those
in the line of a key are the tasks that are at a call of one kind for repositories of one name, and
a task waits for such tasks only (`System.run_turnsByName`).
-/

namespace BuildQueue

/-! ## Names of repositories -/

namespace Source

/-- What the id of a source has more than that of another is what its path has less. -/
def ShiftsTo (s t : Source) : Prop :=
  ∃ part, s.id = t.id ++ "/" ++ part ∧ t.path = part ++ "/" ++ s.path

/-- The sources have one name. -/
def Namesake (s t : Source) : Prop := s = t ∨ s.ShiftsTo t ∨ t.ShiftsTo s

theorem shiftsTo_iff {s t : Source} : s.ShiftsTo t ↔ ∃ part : List Char,
    s.id.toList = t.id.toList ++ '/' :: part ∧ t.path.toList = part ++ '/' :: s.path.toList := by
  constructor
  · rintro ⟨part, hid, hpath⟩
    exact ⟨part.toList, by simp [hid], by simp [hpath]⟩
  · rintro ⟨part, hid, hpath⟩
    refine ⟨String.ofList part, ?_, ?_⟩
    · rw [← String.toList_inj, hid]
      simp
    · rw [← String.toList_inj, hpath]
      simp

theorem display_eq_iff (s t : Source) : s.display = t.display ↔ s.Namesake t := by
  have hlist : s.display = t.display ↔
      s.id.toList ++ '/' :: s.path.toList = t.id.toList ++ '/' :: t.path.toList := by
    rw [← String.toList_inj]
    simp [display]
  rw [hlist, Namesake, shiftsTo_iff, shiftsTo_iff]
  constructor
  · intro h
    rcases List.append_eq_append_iff.1 h with ⟨more, hid, hpath⟩ | ⟨more, hid, hpath⟩
    · cases more with
      | nil =>
        refine .inl ?_
        obtain ⟨id, path⟩ := s
        obtain ⟨id', path'⟩ := t
        simp_all [String.toList_inj]
      | cons c part =>
        obtain ⟨rfl, hrest⟩ := List.cons.inj hpath
        exact .inr (.inr ⟨part, hid, hrest⟩)
    · cases more with
      | nil =>
        refine .inl ?_
        obtain ⟨id, path⟩ := s
        obtain ⟨id', path'⟩ := t
        simp_all [String.toList_inj]
      | cons c part =>
        obtain ⟨rfl, hrest⟩ := List.cons.inj hpath
        exact .inr (.inl ⟨part, hid, hrest⟩)
  · rintro (rfl | ⟨part, hid, hpath⟩ | ⟨part, hid, hpath⟩)
    · rfl
    · rw [hid, hpath]
      simp
    · rw [hid, hpath]
      simp

end Source

namespace Orchestrator

/-! ## Calls that take a turn -/

/-- What is done one at a time for each repository. -/
inductive Access where
  | git (source : Source)
  | model (source : Source)
  deriving DecidableEq, Repr

namespace Access

def key : Access → String
  | git source => gitKey source
  | model source => modelKey source

def source : Access → Source
  | git source | model source => source

/-- Of one kind, and for repositories of one name. -/
def Meets : Access → Access → Prop
  | git s, git t => s.Namesake t
  | model s, model t => s.Namesake t
  | _, _ => False

theorem key_eq_iff (a b : Access) : a.key = b.key ↔ a.Meets b := by
  have hne : ∀ s t : Source, gitKey s ≠ modelKey t := by
    intro s t h
    have hl := congrArg String.toList h
    simp [gitKey, modelKey] at hl
  cases a with
  | git s =>
    cases b with
    | git t => rw [key, key, gitKey, gitKey, String.append_right_inj, Source.display_eq_iff, Meets]
    | model t => exact ⟨fun h => absurd h (hne s t), False.elim⟩
  | model s =>
    cases b with
    | git t => exact ⟨fun h => absurd h.symm (hne t s), False.elim⟩
    | model t =>
      rw [key, key, modelKey, modelKey, String.append_right_inj, Source.display_eq_iff, Meets]

end Access

theorem nodup_keys_iff (s t : Source) :
    [gitKey s, gitKey t, modelKey s, modelKey t].Nodup ↔ ¬ s.Namesake t := by
  have hgit := Access.key_eq_iff (.git s) (.git t)
  have hmodel := Access.key_eq_iff (.model s) (.model t)
  have hapart := fun s t => Access.key_eq_iff (.git s) (.model t)
  simp only [Access.key, Access.Meets, iff_false] at hgit hmodel hapart
  simp [hgit, hmodel, hapart]

end Orchestrator

/-- What a call is an access to, if it takes a turn. -/
def Call.access? : Call → Option Orchestrator.Access
  | .rebase s _ | .merge s _ | .branchHead s _ | .createTag s _ _ | .createBranch s _ _
  | .invalidateGit s => some (.git s)
  | .invalidateModel s | .nextVersion s _ _ | .hasBuildDefinition s _ => some (.model s)
  | _ => none

namespace Orchestrator

/-- What a handler has of a turn. -/
inductive Hold where
  | free
  /-- It has asked for the turn of a key. -/
  | claimed (key : String)
  /-- It has made its call in the turn of a key. -/
  | used (key : String)

namespace Hold

/-- What a request makes of a hold: a call that takes a turn is made after its key was asked for,
and then the turn is given back. -/
def move : Hold → interface.Request → Option Hold
  | free, .inr (.acquire key) => some (claimed key)
  | free, .inr .release => none
  | free, .inr (.call c) => if c.access?.isNone then some free else none
  | free, _ => some free
  | claimed key, .inr (.call c) =>
    if c.access?.map Access.key = some key then some (used key) else none
  | used _, .inr .release => some free
  | _, _ => none

/-- The key in whose line the handler is. -/
def key? : Hold → Option String
  | free => none
  | claimed key | used key => some key

/-- A handler comes into a line when it asks for a turn, and leaves it when it gives it back. -/
theorem move_cases {hold hold' : Hold} {r : interface.Request} (h : hold.move r = some hold') :
    (∃ key, r = .inr (.acquire key) ∧ hold.key? = none ∧ hold'.key? = some key) ∨
    (∃ key, r = .inr .release ∧ hold.key? = some key ∧ hold'.key? = none) ∨
    (∀ key, r ≠ .inr (.acquire key)) ∧ r ≠ .inr .release ∧ hold'.key? = hold.key? := by
  cases hold with
  | free =>
    rcases r with r | (key | _ | c | entry | c)
    case inr.acquire =>
      obtain rfl := Option.some.inj h
      exact .inl ⟨key, rfl, rfl, rfl⟩
    case inr.release => cases h
    case inr.call =>
      obtain ⟨-, h⟩ := Option.ite_none_right_eq_some.1 h
      obtain rfl := Option.some.inj h
      exact .inr (.inr ⟨nofun, nofun, rfl⟩)
    all_goals
      obtain rfl := Option.some.inj h
      exact .inr (.inr ⟨nofun, nofun, rfl⟩)
  | claimed key =>
    rcases r with r | (key' | _ | c | entry | c)
    case inr.call =>
      obtain ⟨-, h⟩ := Option.ite_none_right_eq_some.1 h
      obtain rfl := Option.some.inj h
      exact .inr (.inr ⟨nofun, nofun, rfl⟩)
    all_goals cases h
  | used key =>
    rcases r with r | (key' | _ | c | entry | c)
    case inr.release =>
      obtain rfl := Option.some.inj h
      exact .inr (.inl ⟨key, rfl, rfl, rfl⟩)
    all_goals cases h

end Hold

/-! ## Handlers take their turns -/

/-- A handler that has no turn before and none at the end, and takes its turns in between. -/
def Orderly {α : Type} (p : Handler α) : Prop := p.Abides Hold.move (· = .free) .free

namespace Orderly

variable {α β : Type} {o : Orchestrator} {key : JobKey}

theorem pure (a : α) : Orderly (Pure.pure a : Handler α) := rfl

theorem bind {p : Handler α} {f : α → Handler β} (hp : Orderly p) (hf : ∀ a, Orderly (f a)) :
    Orderly (p >>= f) :=
  Prog.Abides.bind hp hf

theorem ofLedger (p : Prog Ledger.interface α) : Orderly (ofLedger p) := by
  induction p with
  | done a => exact rfl
  | ask r next ih => exact ⟨.free, rfl, ih⟩

theorem call {c : Call} (h : c.access? = none) : Orderly (call c) :=
  ⟨.free, by simp [Hold.move, h], fun _ => rfl⟩

theorem inTurn {a : Access} {c : Call} (h : c.access? = some a) : Orderly (inTurn a.key c) :=
  ⟨.claimed a.key, rfl, fun _ => ⟨.used a.key, by simp [Hold.move, h], fun _ =>
    ⟨.free, rfl, fun _ => rfl⟩⟩⟩

theorem background (c : Call) : Orderly (background c) := ⟨.free, rfl, fun _ => rfl⟩

theorem logAbout (source : Source) (canonicalId : String) (level : LogLevel) (message : String) :
    Orderly (logAbout source canonicalId level message) :=
  ⟨.free, rfl, fun _ => rfl⟩

theorem log (key : JobKey) (level : LogLevel) (message : String) :
    Orderly (log key level message) :=
  logAbout _ _ _ _

theorem logAll (key : JobKey) (level : LogLevel) (messages : List String) :
    Orderly (logAll key level messages) := by
  induction messages with
  | nil => exact pure _
  | cons message rest ih => exact (log key level message).bind fun _ => ih

theorem record (key : JobKey) (state : QueueState) : Orderly (o.record key state) := by
  refine (ofLedger _).bind fun reply => ?_
  split <;> exact pure _

theorem conclude (key : JobKey) (state : QueueState) : Orderly (o.conclude key state) :=
  (record key state).bind fun _ => pure _

/-- A handler that logs why a job ends, and ends it. -/
theorem giveUp (key : JobKey) (level : LogLevel) (message : String) (state : QueueState) :
    Orderly (Orchestrator.log key level message >>= fun _ => o.conclude key state) :=
  (log key level message).bind fun _ => conclude key state

theorem drain : Orderly o.drain := (ofLedger _).bind fun _ => pure _

theorem hasBuildDefinition (source : Source) (commit : CommitId) :
    Orderly (hasBuildDefinition source commit) := by
  refine (inTurn (a := .model source) rfl).bind fun reply => ?_
  split <;> exact pure _

theorem invalidate (source : Source) : Orderly (invalidate source) :=
  (inTurn (a := .git source) rfl).bind fun _ =>
    (inTurn (a := .model source) rfl).bind fun _ => pure _

/-! ### Changes -/

theorem onUpdate (u : Update) (message : String) (error : Option String) :
    Orderly (o.onUpdate u message error) := by
  unfold Orchestrator.onUpdate
  split
  · exact pure _
  · split
    · exact (log _ _ _).bind fun _ => pure _
    · refine (hasBuildDefinition _ _).bind fun found => ?_
      split
      · refine (ofLedger _).bind fun reply => ?_
        split
        · exact pure _
        · split
          · exact (log _ _ _).bind fun _ => pure _
          · exact pure _
      · exact pure _

theorem onBranchPush (source : Source) (branch : String) (commit : CommitId) :
    Orderly (o.onBranchPush source branch commit) := by
  unfold Orchestrator.onBranchPush
  split
  · refine (hasBuildDefinition _ _).bind fun found => ?_
    split
    · refine (ofLedger _).bind fun reply => ?_
      split
      · exact pure _
      · split
        · exact (log _ _ _).bind fun _ => pure _
        · exact pure _
    · exact pure _
  · exact pure _

theorem onPush (source : Source) (ref : GitRef) (commit : CommitId) :
    Orderly (o.onPush source ref commit) := by
  refine (invalidate source).bind fun _ => ?_
  split
  · split
    · exact (background _).bind fun _ => pure _
    · exact pure _
  · exact onBranchPush _ _ _

/-! ### Transitions -/

theorem handOff (key : JobKey) : Orderly (o.handOff key) := by
  refine (ofLedger _).bind fun reply => ?_
  split
  · refine (call rfl).bind fun reply => ?_
    split
    · exact pure _
    · exact giveUp _ _ _ _
  · exact pure _

theorem checkDependencies (key : JobKey) : Orderly (o.checkDependencies key) := by
  refine (call rfl).bind fun reply => ?_
  split
  · exact giveUp _ _ _ _
  · split
    · exact handOff key
    · exact (logAll _ _ _).bind fun _ => conclude _ _

theorem prepareUpdate (key : JobKey) (updateId target : String) :
    Orderly (o.prepareUpdate key updateId target) := by
  refine (inTurn (a := .git key.source) rfl).bind fun reply => ?_
  split
  · exact checkDependencies key
  all_goals exact giveUp _ _ _ _

theorem prepare (key : JobKey) : Orderly (o.prepare key) := by
  unfold Orchestrator.prepare
  split
  · exact prepareUpdate _ _ _
  · exact checkDependencies _

theorem onTransition (t : Transition) : Orderly (o.onTransition t) := by
  unfold Orchestrator.onTransition
  split
  · exact prepare _
  · exact drain
  · exact pure _
  · split
    · exact (call rfl).bind fun _ => drain
    · exact drain
  · exact drain

/-! ### Releases -/

theorem openMaintenance (source : Source) (head : CommitId) (version : Version) (bump : Bump) :
    Orderly (o.openMaintenance source head version bump) := by
  unfold Orchestrator.openMaintenance
  split
  · exact inTurn (a := .git source) rfl
  · exact pure _

theorem releaseAs (source : Source) (branch : String) (bump : Bump) (canonicalId : String) :
    Orderly (o.releaseAs source branch bump canonicalId) := by
  refine (inTurn (a := .model source) rfl).bind fun version => ?_
  split
  · exact pure _
  refine (inTurn (a := .git source) rfl).bind fun head => ?_
  split
  · exact pure _
  refine (inTurn (a := .git source) rfl).bind fun tag => ?_
  split
  · exact pure _
  refine (openMaintenance _ _ _ _).bind fun opened => ?_
  split
  · exact pure _
  · exact (logAbout _ _ _ _).bind fun _ => pure _

/-! ### Reports of the executor -/

/-- A handler that records a state and goes on if that was news. -/
theorem report (key : JobKey) (state : QueueState) {p : Handler Unit} (hp : Orderly p) :
    Orderly (o.record key state >>= fun b => if b then p else Pure.pure ()) := by
  refine (record key state).bind fun b => ?_
  split
  · exact hp
  · exact pure _

theorem onLanded (key : JobKey) (policy : RepositoryPolicy) (branch : String) :
    Orderly (o.onLanded key policy branch) := by
  unfold Orchestrator.onLanded
  split
  · exact pure _
  · refine (releaseAs _ _ _ _).bind fun reply => ?_
    split
    · exact pure _
    · exact log _ _ _

theorem land (key : JobKey) : Orderly (o.land key) := by
  unfold Orchestrator.land
  split
  · exact pure _
  split
  · split
    · refine (inTurn (a := .git key.source) rfl).bind fun reply => ?_
      split
      · exact (log _ _ _).bind fun _ => onLanded _ _ _
      · exact log _ _ _
    · exact pure _
  · exact onLanded _ _ _

theorem verify (key : JobKey) : Orderly (o.verify key) := by
  refine (call rfl).bind fun reply => ?_
  split
  · exact land key
  · exact log _ _ _

theorem publish (key : JobKey) : Orderly (o.publish key) := by
  refine (call rfl).bind fun reply => ?_
  split
  · split
    · exact (log _ _ _).bind fun _ => verify key
    · exact verify key
  · exact log _ _ _

theorem onSuccess (key : JobKey) : Orderly (o.onSuccess key) := by
  refine (ofLedger _).bind fun reply => ?_
  split
  · exact report _ _ ((log _ _ _).bind fun _ => publish key)
  · exact pure _

theorem onAborted (key : JobKey) : Orderly (o.onAborted key) := by
  refine (ofLedger _).bind fun reply => ?_
  split
  · exact pure _
  · exact report _ _ (log _ _ _)

theorem onOutcome (r : JobOutcome) : Orderly (o.onOutcome r) := by
  unfold Orchestrator.onOutcome
  split
  · exact report _ _ (log _ _ _)
  · exact report _ _ (log _ _ _)
  · exact onSuccess _
  · exact onAborted _
  · exact report _ _ (log _ _ _)

end Orderly

/-- Every handler takes its turns. -/
theorem Duty.orderly (o : Orchestrator) (duty : Duty) : Orderly (duty.program o) := by
  cases duty with
  | occasion x =>
    cases x with
    | update u message error => exact (Orderly.onUpdate _ _ _).bind fun _ => .pure _
    | push source ref commit => exact (Orderly.onPush _ _ _).bind fun _ => .pure _
    | delete source =>
      exact ((Orderly.invalidate source).bind fun _ => .pure _).bind fun _ => .pure _
    | outcome r => exact .onOutcome r
    | timeout key => exact .report _ _ (.log _ _ _)
    | release source branch bump => exact (Orderly.releaseAs _ _ _ _).bind fun _ => .pure _
  | transition t => exact .onTransition t

/-! ## Lines are those of the tasks -/

namespace System

variable {o : Orchestrator} {s t : System} {n : Nat}

/-- What a task has of a turn, by what it has asked for. -/
def hold? (s : System) (n : Nat) : Option Hold :=
  (s.trace n).foldlM (fun h x => h.move x.request) .free

/-- The call that a task makes next, or made last if it gives its turn back next. -/
def call? (s : System) (n : Nat) : Option Call :=
  match s.tasks[n]? with
  | some ⟨_, .ask (.inr (.call c)) _⟩ => some c
  | some ⟨_, .ask (.inr .release) _⟩ =>
    match (s.trace n).getLast? with
    | some ⟨.inr (.call c), _⟩ => some c
    | _ => none
  | _ => none

/-- What a task is at that takes a turn. -/
def access? (s : System) (n : Nat) : Option Access := (s.call? n).bind Call.access?

/-- A task is in the line of another one and came after it. -/
def HoldsBack (s : System) (m n : Nat) : Prop := ∃ key, [m, n].Sublist (s.turns.line key)

theorem exists_hold (hs : Sound o s) {task : Task} (h : s.tasks[n]? = some task) :
    ∃ hold, s.hold? n = some hold ∧ task.rest.Abides Hold.move (· = .free) hold :=
  Prog.Abides.of_path (hs.path n task h) (task.duty.orderly o)

theorem hold?_eq_free (hs : Sound o s) (h : s.tasks.length ≤ n) : s.hold? n = some .free := by
  rw [hold?, hs.trace_eq_nil h]
  rfl

theorem foldlM_move_concat (trace : List (Exchange interface)) (x : Exchange interface)
    (hold : Hold) : (trace ++ [x]).foldlM (fun h x => Hold.move h x.request) hold =
      (trace.foldlM (fun h x => Hold.move h x.request) hold).bind (·.move x.request) := by
  rw [List.foldlM_append]
  simp only [List.foldlM_cons, List.foldlM_nil, bind_pure]
  rfl

/-- One more exchange of a task. -/
theorem hold?_journal_concat {entry : Nat × Exchange interface}
    (h : t.journal = s.journal ++ [entry]) (n : Nat) : t.hold? n =
      if entry.1 = n then (s.hold? n).bind (·.move entry.2.request) else s.hold? n := by
  rw [hold?, trace_journal_concat h]
  split
  · exact foldlM_move_concat _ _ _
  · rw [List.append_nil]
    rfl

/-- The live calls of the turns are those of the tasks that have asked for a turn and have not given
it back. -/
def Served (s : System) : Prop := ∃ calls, s.turns.Serves calls ∧
  ∀ n key, (n, key) ∈ calls ↔ (s.hold? n).bind Hold.key? = some key

theorem Served.congr (h : s.Served) (hturns : t.turns = s.turns)
    (hkey : ∀ n, (t.hold? n).bind Hold.key? = (s.hold? n).bind Hold.key?) : t.Served := by
  obtain ⟨calls, hserves, hcalls⟩ := h
  refine ⟨calls, hturns ▸ hserves, fun n key => ?_⟩
  rw [hkey, hcalls]

theorem turns_serve (s : System) (task : Nat) (now : Int)
    (answer : (c : Call) → Except DomainError c.Answer) {r : interface.Request}
    (ha : ∀ key, r ≠ .inr (.acquire key)) (hr : r ≠ .inr .release) :
    (s.serve task now answer r).2.turns = s.turns := by
  rcases r with (c | x) | (key | _ | c | entry | c)
  case inr.acquire => exact absurd rfl (ha key)
  case inr.release => exact absurd rfl hr
  all_goals rfl

/-- A request changes the line of the task that makes it as its hold changes. -/
theorem Served.request (h : s.Served) (hs : Sound o s) {task : Nat} (now : Int)
    (answer : (c : Call) → Except DomainError c.Answer) {duty : Duty} {r : interface.Request}
    {rest : interface.Reply r → Handler Unit} (ht : s.tasks[task]? = some ⟨duty, .ask r rest⟩) :
    Served { (s.serve task now answer r).2 with
      tasks := s.tasks.set task ⟨duty, rest (s.serve task now answer r).1⟩
      journal := s.journal ++ [(task, ⟨r, (s.serve task now answer r).1⟩)] } := by
  obtain ⟨hold, hhold, hold', hmove, -⟩ := exists_hold hs ht
  obtain ⟨calls, hserves, hcalls⟩ := h
  have hbefore : ∀ key, (task, key) ∈ calls ↔ hold.key? = some key := fun key => by
    rw [hcalls, hhold, Option.bind_some]
  have hkey : ∀ n, (System.hold? { (s.serve task now answer r).2 with
      tasks := s.tasks.set task ⟨duty, rest (s.serve task now answer r).1⟩
      journal := s.journal ++ [(task, ⟨r, (s.serve task now answer r).1⟩)] } n).bind Hold.key? =
      if task = n then hold'.key? else (s.hold? n).bind Hold.key? := by
    intro n
    rw [hold?_journal_concat (s := s) rfl]
    by_cases e : task = n
    · rw [if_pos e, if_pos e, ← e, hhold]
      show (hold.move r).bind _ = _
      rw [hmove]
      rfl
    · rw [if_neg e, if_neg e]
  rcases Hold.move_cases hmove with ⟨key, rfl, hnone, hsome⟩ | ⟨key, rfl, hsome, hnone⟩ |
    ⟨ha, hr, hsame⟩
  · have hnew : task ∉ calls.map Prod.fst := by
      intro hm
      obtain ⟨⟨n, k⟩, hk, rfl⟩ := List.mem_map.1 hm
      rw [hbefore, hnone] at hk
      cases hk
    refine ⟨_, hserves.arrive hnew key, fun n k => ?_⟩
    rw [hkey, List.mem_append, List.mem_singleton, Prod.mk.injEq]
    by_cases e : task = n
    · subst e
      rw [if_pos rfl, hsome, hbefore, hnone]
      simp [eq_comm]
    · rw [if_neg e, hcalls]
      simp [Ne.symm e]
  · refine ⟨_, hserves.leave ((hbefore key).2 hsome), fun n k => ?_⟩
    rw [hkey, Serializer.mem_without]
    by_cases e : task = n
    · subst e
      rw [if_pos rfl, hnone]
      simp
    · rw [if_neg e, hcalls]
      simp [Ne.symm e]
  · refine ⟨calls, turns_serve s task now answer ha hr ▸ hserves, fun n k => ?_⟩
    rw [hkey]
    split
    · next e => rw [← e, hbefore, hsame]
    · exact hcalls n k

theorem Served.step {e : Event} (h : s.Served) (hs : Sound o s) (hstep : Step o s e t) :
    t.Served := by
  cases hstep with
  | stay => exact h
  | begin => exact h.congr rfl fun _ => rfl
  | take => exact h.congr rfl fun _ => rfl
  | request ht => exact h.request hs _ _ ht
  | advance => exact h.congr rfl fun _ => rfl

theorem served_run (o : Orchestrator) (events : List Event) :
    (({} : System).run o events).Served := by
  have hboth : Sound o (({} : System).run o events) ∧ (({} : System).run o events).Served := by
    refine run_induction (P := fun s => Sound o s ∧ s.Served)
      ⟨.empty, [], .empty, fun n key => ?_⟩ (fun s t e hs hstep =>
        ⟨hs.1.step hstep, hs.2.step hs.1 hstep⟩) events
    rw [hold?_eq_free (o := o) .empty (Nat.zero_le _)]
    simp [Hold.key?]
  exact hboth.2

/-- The last exchange of a task that has used its turn is the call that it has made in it. -/
theorem getLast?_of_used {key : String} (h : s.hold? n = some (.used key)) :
    ∃ c x, (s.trace n).getLast? = some ⟨.inr (.call c), x⟩ ∧
      c.access?.map Access.key = some key := by
  unfold hold? at h
  induction hl : s.trace n using List.reverseRecOn with
  | nil =>
    rw [hl] at h
    cases h
  | append_singleton before e _ =>
    rw [hl, foldlM_move_concat] at h
    obtain ⟨hold, -, hmove⟩ := Option.bind_eq_some_iff.1 h
    obtain ⟨r, x⟩ := e
    cases hold with
    | free =>
      rcases r with r | (key' | _ | c | entry | c)
      case inr.call => cases (Option.ite_none_right_eq_some.1 hmove).2
      all_goals cases hmove
    | claimed key' =>
      rcases r with r | (key'' | _ | c | entry | c)
      case inr.call =>
        obtain ⟨hkey, hused⟩ := Option.ite_none_right_eq_some.1 hmove
        cases hused
        exact ⟨c, x, List.getLast?_concat, hkey⟩
      all_goals cases hmove
    | used key' =>
      rcases r with r | (key'' | _ | c | entry | c) <;> cases hmove

/-- A task is in the line of the key of the call that it is at. -/
theorem key_access? (hs : Sound o s) (n : Nat) :
    (s.access? n).map Access.key = (s.hold? n).bind Hold.key? := by
  cases ht : s.tasks[n]? with
  | none =>
    have hlen : s.tasks.length ≤ n := List.getElem?_eq_none_iff.1 ht
    rw [hold?_eq_free hs hlen, access?, call?, ht]
    rfl
  | some task =>
    obtain ⟨hold, hhold, habides⟩ := exists_hold hs ht
    obtain ⟨duty, rest⟩ := task
    rw [access?, call?, ht, hhold]
    cases rest with
    | done u =>
      obtain rfl : hold = .free := habides
      rfl
    | ask r next =>
      obtain ⟨hold', hmove, -⟩ := habides
      cases hold with
      | free =>
        rcases r with r | (key | _ | c | entry | c)
        case inr.call =>
          have hnone := (Option.ite_none_right_eq_some.1 hmove).1
          rw [Option.isNone_iff_eq_none] at hnone
          show (Call.access? c).map _ = none
          rw [hnone]
          rfl
        case inr.release => cases hmove
        all_goals rfl
      | claimed key =>
        rcases r with r | (key' | _ | c | entry | c)
        case inr.call => exact (Option.ite_none_right_eq_some.1 hmove).1
        all_goals cases hmove
      | used key =>
        rcases r with r | (key' | _ | c | entry | c)
        case inr.release =>
          obtain ⟨c, x, hlast, hkey⟩ := getLast?_of_used hhold
          dsimp only
          rw [hlast]
          exact hkey
        all_goals cases hmove

/-- Who is in the line of a key, who waits, and for whom. -/
structure TurnsByName (s : System) : Prop where
  /-- In the line of a key are the tasks that are at a call with that key. -/
  line : ∀ n key, n ∈ s.turns.line key ↔ (s.access? n).map Access.key = some key
  /-- A task waits if and only if another one came into its line before it. -/
  waits : ∀ n, s.waits n = true ↔ ∃ m, s.HoldsBack m n
  /-- Who holds back a task is at a call of the same kind, for a repository of the same name. -/
  heldBack : ∀ m n, s.HoldsBack m n →
    ∃ a b, s.access? m = some a ∧ s.access? n = some b ∧ a.Meets b

theorem waits_iff {calls : List (Nat × String)} (h : s.turns.Serves calls) (n : Nat) :
    s.waits n = true ↔ ∃ m, s.HoldsBack m n := by
  have hclaim : s.turns.claims.contains n = true ↔ ∃ key, (n, key) ∈ calls := by
    rw [Std.TreeMap.contains_eq_isSome_getElem?, Option.isSome_iff_exists]
    constructor
    · rintro ⟨c, hc⟩
      exact ⟨c.key, ((h.claim n c).1 hc).1⟩
    · rintro ⟨key, hk⟩
      obtain ⟨slot, -, hc, -⟩ := h.exists_slot hk
      exact ⟨_, hc⟩
  rw [System.waits, Bool.and_eq_true, hclaim, Bool.not_eq_true']
  constructor
  · rintro ⟨⟨key, hk⟩, hturn⟩
    have hn := Serializer.mem_lineOf.2 hk
    obtain ⟨m, rest, hline, hm, -⟩ := h.exists_holder (List.ne_nil_of_mem hn)
    have hrest : n ∈ rest := by
      refine (List.mem_cons.1 (hline ▸ hn)).resolve_left ?_
      rintro rfl
      rw [hturn] at hm
      cases hm
    refine ⟨m, key, ?_⟩
    rw [h.line_eq, hline]
    exact (List.singleton_sublist.2 hrest).cons_cons m
  · rintro ⟨m, key, hsub⟩
    rw [h.line_eq] at hsub
    have hnodup := Serializer.nodup_lineOf h.nodup key
    have hn := hsub.mem (List.mem_cons_of_mem _ List.mem_cons_self)
    obtain ⟨first, rest, hline, -, hothers⟩ := h.exists_holder (List.ne_nil_of_mem hn)
    refine ⟨⟨key, Serializer.mem_lineOf.1 hn⟩, hothers n ?_⟩
    rw [hline] at hsub hnodup
    rcases List.cons_sublist_cons'.1 hsub with hrest | ⟨-, hrest⟩
    · exact hrest.mem (List.mem_cons_of_mem _ List.mem_cons_self)
    · exact hrest.mem List.mem_cons_self

/-- The keys of two repositories are pairwise different if and only if their names are; and in every
run a task is in the line of the call that it is at, and waits only for tasks that are at a call of
the same kind for a repository of the same name. -/
theorem run_turnsByName (o : Orchestrator) (events : List Event) (s t : Source) :
    ([gitKey s, gitKey t, modelKey s, modelKey t].Nodup ↔ ¬ s.Namesake t) ∧
      TurnsByName (({} : System).run o events) := by
  refine ⟨nodup_keys_iff s t, ?_⟩
  have hs := sound_run o events
  obtain ⟨calls, hserves, hcalls⟩ := served_run o events
  have hline : ∀ n key, n ∈ (({} : System).run o events).turns.line key ↔
      ((({} : System).run o events).access? n).map Access.key = some key := by
    intro n key
    rw [hserves.line_eq, Serializer.mem_lineOf, hcalls, key_access? hs]
  refine ⟨hline, waits_iff hserves, fun m n ⟨key, hsub⟩ => ?_⟩
  obtain ⟨a, ha, hakey⟩ := Option.map_eq_some_iff.1
    ((hline m key).1 (hsub.mem List.mem_cons_self))
  obtain ⟨b, hb, hbkey⟩ := Option.map_eq_some_iff.1
    ((hline n key).1 (hsub.mem (List.mem_cons_of_mem _ List.mem_cons_self)))
  exact ⟨a, b, ha, hb, (Access.key_eq_iff a b).1 (hakey.trans hbkey.symm)⟩

/-- Two repositories of one name: a branch of each is deleted, and both tasks ask for their turn. -/
def deletions : List Event :=
  [.begin (.delete ⟨"a", "b/c"⟩), .begin (.delete ⟨"a/b", "c"⟩),
    .step 0 0 fun _ => .error (.repository ""), .step 1 0 fun _ => .error (.repository "")]

theorem shifted_sources_share_turns :
    (¬ ∀ s t : Source, s ≠ t → [gitKey s, gitKey t, modelKey s, modelKey t].Nodup) ∧
    ¬ ∀ (o : Orchestrator) (events : List Event) (m n : Nat) (a b : Access),
      (({} : System).run o events).HoldsBack m n →
      (({} : System).run o events).access? m = some a →
      (({} : System).run o events).access? n = some b → a.source = b.source := by
  constructor
  · intro h
    exact absurd (h ⟨"a", "b/c"⟩ ⟨"a/b", "c"⟩ (by decide)) (by decide +kernel)
  · intro h
    have hline : (({} : System).run ⟨⟨⟨""⟩, 0⟩, {}, ""⟩ deletions).turns.line "git:a/b/c" =
        [0, 1] := by decide +kernel
    have hsame := h ⟨⟨⟨""⟩, 0⟩, {}, ""⟩ deletions 0 1 (.git ⟨"a", "b/c"⟩) (.git ⟨"a/b", "c"⟩)
      ⟨"git:a/b/c", hline ▸ List.Sublist.refl _⟩ rfl rfl
    exact absurd hsame (by decide)

end System

end Orchestrator

end BuildQueue
