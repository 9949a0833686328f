import BuildQueue.Proofs.Orchestrator.Deeds
import BuildQueue.Proofs.Orchestrator.Journal

/-!
# Bringing an admitted job to the executor

The handler of an admission has two ways in, by the kind of reference, and eight ways out
(`Prepared`). Each way out leaves the job with the executor or moves it to a state that ends it, so
no admitted job keeps its slot and goes nowhere. A job that was superseded in the meantime comes to
no harm: its state does not allow any of those moves, and its status is read again before it would
be handed off (`System.run_starting`).
-/

namespace BuildQueue.Orchestrator

/-- The deed has the executor start a job. -/
def Deed.starts (d : Deed) : Bool :=
  match d.call? with
  | some (.startJob _) => true
  | _ => false

@[simp] theorem Deed.starts_note (key : JobKey) (level : LogLevel) (message : String) :
    (Deed.note key level message).starts = false := rfl

/-- The calls that bring a job to the executor. -/
def preparation (key : JobKey) : List Call :=
  match key.ref with
  | .update id _ =>
    [.rebase key.source id, .dependencyGraph key.source key.commit, .startJob key]
  | .branch _ => [.dependencyGraph key.source key.commit, .startJob key]

/-- The states to which the handler of an admission moves jobs. -/
def exits : List QueueState := [.rebased, .conflict, .dependency, .error]

/-- Only a job at work is moved there. -/
theorem busy_of_canBecome_exit {current state : QueueState} (h : current.canBecome state = true)
    (hs : state ∈ exits) : current = .starting ∨ current = .started := by
  revert h hs
  cases current <;> cases state <;> decide

/-! ## The ways out -/

section Exits

variable (key : JobKey) (live : Option QueueState)

/-- The hand-off of a job whose state is read as `live`: the deeds, and the state to which the job
is moved in the end, if it is moved. -/
inductive HandedOff : List Deed → Option QueueState → Prop where
  | passedOver (h : live ≠ some .starting) : HandedOff [] none
  | accepted (h : live = some .starting) : HandedOff [.call (.startJob key) (.ok ())] none
  | refused (h : live = some .starting) (e : DomainError) :
    HandedOff [.call (.startJob key) (.error e),
      .note key .error ("Could not start the build: " ++ e.message)] (some .error)

/-- The same for a look at the dependencies. -/
inductive Checked : List Deed → Option QueueState → Prop where
  | failed (e : DomainError) :
    Checked [.call (.dependencyGraph key.source key.commit) (.error e),
      .note key .error ("Dependency check failed: " ++ e.message)] (some .error)
  | inconsistent (graph : DependencyGraph) (h : graph.problems ≠ []) :
    Checked (.call (.dependencyGraph key.source key.commit) (.ok graph) ::
      graph.problems.map fun problem => .note key .warning problem.display) (some .dependency)
  | consistent (graph : DependencyGraph) (h : graph.problems = []) {deeds : List Deed}
    {attempt : Option QueueState} (hd : HandedOff key live deeds attempt) :
    Checked (.call (.dependencyGraph key.source key.commit) (.ok graph) :: deeds) attempt

/-- The same for the whole handler. -/
inductive Prepared : List Deed → Option QueueState → Prop where
  | branch {name : String} (ref : key.ref = .branch name) {deeds : List Deed}
    {attempt : Option QueueState} (hc : Checked key live deeds attempt) : Prepared deeds attempt
  | upToDate {id target : String} (ref : key.ref = .update id target) {deeds : List Deed}
    {attempt : Option QueueState} (hc : Checked key live deeds attempt) :
    Prepared (.call (.rebase key.source id) (.ok .upToDate) :: deeds) attempt
  | rebased {id target : String} (ref : key.ref = .update id target) (commit : CommitId) :
    Prepared [.call (.rebase key.source id) (.ok (.rebased commit)),
      .note key .info ("Rebased onto `" ++ target ++ "`; the build continues with `" ++
        commit.short ++ "`.")] (some .rebased)
  | conflict {id target : String} (ref : key.ref = .update id target) :
    Prepared [.call (.rebase key.source id) (.ok .conflict),
      .note key .warning ("Cannot rebase onto `" ++ target ++ "`: the change conflicts.")]
      (some .conflict)
  | failed {id target : String} (ref : key.ref = .update id target) (e : DomainError) :
    Prepared [.call (.rebase key.source id) (.error e),
      .note key .error ("Rebase onto `" ++ target ++ "` failed: " ++ e.message)] (some .error)

end Exits

/-- What the deeds of a preparation say of the state to which a starting job is moved. -/
structure Outcome (key : JobKey) (deeds : List Deed) (attempt : Option QueueState) : Prop where
  /-- A job that stays where it is was given to the executor, which was asked once. -/
  kept : attempt = none → deeds.filter Deed.starts = [.call (.startJob key) (.ok ())]
  /-- For any other job the executor was not asked, or it was asked once and refused. -/
  left : attempt ≠ none → deeds.filter Deed.starts = [] ∨
    (attempt = some .error ∧ ∃ e, deeds.filter Deed.starts = [.call (.startJob key) (.error e)])
  dependency_iff : attempt = some .dependency ↔ ∃ graph : DependencyGraph, graph.problems ≠ [] ∧
    .call (.dependencyGraph key.source key.commit) (.ok graph) ∈ deeds
  /-- Each problem has its entry, and there are no others. -/
  warned : ∀ graph : DependencyGraph, graph.problems ≠ [] →
    .call (.dependencyGraph key.source key.commit) (.ok graph) ∈ deeds →
      deeds.filterMap Deed.noted? =
        graph.problems.map fun problem => ⟨.warning, problem.display, key.source, key.canonicalId⟩

section Outcomes

variable {key : JobKey} {live attempt : Option QueueState} {deeds : List Deed}

/-- Where no graph with problems was answered, nothing is said of dependencies. -/
theorem Outcome.of_consistent (hattempt : attempt ≠ some .dependency)
    (kept : attempt = none → deeds.filter Deed.starts = [.call (.startJob key) (.ok ())])
    (left : attempt ≠ none → deeds.filter Deed.starts = [] ∨
      (attempt = some .error ∧ ∃ e, deeds.filter Deed.starts = [.call (.startJob key) (.error e)]))
    (consistent : ∀ graph : DependencyGraph,
      .call (.dependencyGraph key.source key.commit) (.ok graph) ∈ deeds → graph.problems = []) :
    Outcome key deeds attempt where
  kept := kept
  left := left
  dependency_iff := iff_of_false hattempt fun ⟨graph, hp, hm⟩ => hp (consistent graph hm)
  warned graph hp hm := absurd (consistent graph hm) hp

theorem filter_starts_problems (graph : DependencyGraph) :
    (.call (.dependencyGraph key.source key.commit) (.ok graph) :: graph.problems.map fun problem =>
      Deed.note key .warning problem.display).filter Deed.starts = [] := by
  rw [List.filter_cons_of_neg Bool.false_ne_true]
  simp

theorem Checked.outcome (h : Checked key (some .starting) deeds attempt) :
    Outcome key deeds attempt := by
  cases h with
  | failed e => exact .of_consistent (by simp) nofun (fun _ => .inl rfl) (by simp)
  | inconsistent graph hp =>
    refine ⟨nofun, fun _ => .inl (filter_starts_problems graph),
      iff_of_true rfl ⟨graph, hp, List.mem_cons_self⟩, fun other _ hm => ?_⟩
    obtain rfl : other = graph := by simpa using hm
    rw [List.filterMap_cons_none rfl, List.filterMap_map]
    exact congrFun List.filterMap_eq_map _
  | consistent graph hp hd =>
    cases hd with
    | passedOver hl => exact absurd rfl hl
    | accepted => exact .of_consistent nofun (fun _ => rfl) (absurd rfl) (by simp [hp])
    | refused _ e =>
      exact .of_consistent (by simp) nofun (fun _ => .inr ⟨rfl, e, rfl⟩) (by simp [hp])

theorem Outcome.upToDate (h : Outcome key deeds attempt) (id : String) :
    Outcome key (.call (.rebase key.source id) (.ok .upToDate) :: deeds) attempt where
  kept := h.kept
  left := h.left
  dependency_iff := by simpa using h.dependency_iff
  warned graph hp hm := by
    rw [List.filterMap_cons_none rfl]
    exact h.warned graph hp (by simpa using hm)

theorem Prepared.outcome (h : Prepared key (some .starting) deeds attempt) :
    Outcome key deeds attempt := by
  cases h with
  | branch ref hc => exact hc.outcome
  | upToDate ref hc => exact hc.outcome.upToDate _
  | rebased ref commit => exact .of_consistent (by simp) nofun (fun _ => .inl rfl) (by simp)
  | conflict ref => exact .of_consistent (by simp) nofun (fun _ => .inl rfl) (by simp)
  | failed ref e => exact .of_consistent (by simp) nofun (fun _ => .inl rfl) (by simp)

theorem Checked.mem_exits {state : QueueState} (h : Checked key live deeds (some state)) :
    state ∈ exits := by
  cases h with
  | failed e => decide
  | inconsistent graph hp => decide
  | consistent graph hp hd =>
    cases hd
    decide

theorem Prepared.mem_exits {state : QueueState} (h : Prepared key live deeds (some state)) :
    state ∈ exits := by
  cases h with
  | branch ref hc => exact hc.mem_exits
  | upToDate ref hc => exact hc.mem_exits
  | rebased ref commit => decide
  | conflict ref => decide
  | failed ref e => decide

/-- The executor is asked only for a job that is read as starting. -/
theorem Checked.not_starts (h : Checked key live deeds attempt) (hl : live ≠ some .starting) :
    deeds.filter Deed.starts = [] := by
  cases h with
  | failed e => rfl
  | inconsistent graph hp => exact filter_starts_problems graph
  | consistent graph hp hd =>
    cases hd with
    | passedOver => rfl
    | accepted hs => exact absurd hs hl
    | refused hs e => exact absurd hs hl

theorem Prepared.not_starts (h : Prepared key live deeds attempt) (hl : live ≠ some .starting) :
    deeds.filter Deed.starts = [] := by
  cases h with
  | branch ref hc => exact hc.not_starts hl
  | upToDate ref hc =>
    rw [List.filter_cons_of_neg Bool.false_ne_true]
    exact hc.not_starts hl
  | rebased ref commit => rfl
  | conflict ref => rfl
  | failed ref e => rfl

theorem Checked.calls (h : Checked key live deeds attempt) :
    deeds.filterMap Deed.call? <+: [.dependencyGraph key.source key.commit, .startJob key] := by
  cases h with
  | failed e => exact ⟨[.startJob key], rfl⟩
  | inconsistent graph hp =>
    have hnotes : (graph.problems.map fun problem =>
        Deed.note key .warning problem.display).filterMap Deed.call? = [] :=
      List.filterMap_eq_nil_iff.2 (by simp)
    exact List.cons_prefix_cons.2 ⟨rfl, hnotes ▸ List.nil_prefix⟩
  | consistent graph hp hd =>
    cases hd with
    | passedOver => exact ⟨[.startJob key], rfl⟩
    | accepted => exact List.prefix_rfl
    | refused => exact List.prefix_rfl

theorem Prepared.calls (h : Prepared key live deeds attempt) :
    deeds.filterMap Deed.call? <+: preparation key := by
  unfold preparation
  cases h with
  | branch ref hc =>
    rw [ref]
    exact hc.calls
  | upToDate ref hc =>
    rw [ref]
    exact List.cons_prefix_cons.2 ⟨rfl, hc.calls⟩
  | rebased ref commit =>
    rw [ref]
    exact ⟨_, rfl⟩
  | conflict ref =>
    rw [ref]
    exact ⟨_, rfl⟩
  | failed ref e =>
    rw [ref]
    exact ⟨_, rfl⟩

theorem Checked.exists_graph (h : Checked key live deeds attempt) :
    ∃ answer, .call (.dependencyGraph key.source key.commit) answer ∈ deeds := by
  cases h <;> exact ⟨_, List.mem_cons_self⟩

/-- The dependencies are looked at if there is nothing to rebase. -/
theorem Prepared.exists_graph_iff (h : Prepared key live deeds attempt) :
    (∃ answer, .call (.dependencyGraph key.source key.commit) answer ∈ deeds) ↔
      (∃ name, key.ref = .branch name) ∨
        ∃ id, .call (.rebase key.source id) (.ok .upToDate) ∈ deeds := by
  cases h with
  | branch ref hc => exact iff_of_true hc.exists_graph (.inl ⟨_, ref⟩)
  | upToDate ref hc =>
    obtain ⟨answer, hm⟩ := hc.exists_graph
    exact iff_of_true ⟨answer, List.mem_cons_of_mem _ hm⟩ (.inr ⟨_, List.mem_cons_self⟩)
  | rebased ref commit => simp [ref]
  | conflict ref => simp [ref]
  | failed ref e => simp [ref]

end Outcomes

namespace Site

variable {σ : Type} {o : Orchestrator} {react : σ → interface.Request → Moment × σ}
  {s t u : Site σ} {vs : Visits σ} {key : JobKey} {found live attempt : Option QueueState}
  {state : QueueState}

/-- What has come of the attempt to move a job to a state: the table allowed it and it was made, or
nothing has happened. -/
def Tried (o : Orchestrator) (key : JobKey) (found : Option QueueState) (state : QueueState)
    (s t : Site σ) : Prop :=
  (∃ current ∈ found, current.canBecome state = true ∧ Moved o key current state s t) ∨
    (Idle s t ∧ ∀ current ∈ found, current.canBecome state = true →
      t.store.status? (o.ledger.layout.status key) = none)

theorem Tried.after (h : Tried o key found state t u) (hst : Idle s t) :
    Tried o key found state s u := by
  obtain ⟨current, hc, hcan, hm⟩ | ⟨hidle, hnone⟩ := h
  · exact .inl ⟨current, hc, hcan, hm.after hst⟩
  · exact .inr ⟨hst.trans hidle, hnone⟩

/-- A job is moved to a state, as far as the table allows, or nothing happens. -/
def Attempted (o : Orchestrator) (key : JobKey) (found attempt : Option QueueState)
    (s t : Site σ) : Prop :=
  match attempt with
  | none => Idle s t
  | some state => Tried o key found state s t

theorem Attempted.after (h : Attempted o key found attempt t u) (hst : Idle s t) :
    Attempted o key found attempt s u := by
  cases attempt with
  | none => exact hst.trans h
  | some state => exact Tried.after h hst

namespace Runs

theorem conclude_inv (hg : Ledger.Grounded o.ledger.layout s.store) (hs : Holds o key found s)
    (h : Runs react (o.conclude key state) s vs () t) :
    deeds vs = [] ∧ Tried o key found state s t := by
  obtain ⟨vs₁, vs₂, b, t₁, rfl, hrecord, hdone⟩ := h.bind_inv
  obtain ⟨rfl, -, rfl⟩ := hdone.pure_inv
  obtain ⟨hdeeds, hmoved⟩ := hrecord.record_inv hg hs
  exact ⟨by rw [List.append_nil, hdeeds], hmoved.imp And.right And.right⟩

/-- A handler that logs why a job ends, and ends it. -/
theorem giveUp_inv (hg : Ledger.Grounded o.ledger.layout s.store) (hs : Holds o key found s)
    {level : LogLevel} {message : String}
    (h : Runs react (log key level message >>= fun _ => o.conclude key state) s vs () u) :
    deeds vs = [.note key level message] ∧ Tried o key found state s u := by
  obtain ⟨vs₁, vs₂, _, t, rfl, hlog, hend⟩ := h.bind_inv
  obtain ⟨hdeeds, hidle⟩ := hlog.log_inv
  obtain ⟨hdeeds', htried⟩ := hend.conclude_inv (hidle.grounded hg) (hs.idle hidle)
  exact ⟨by rw [deeds_append, hdeeds, hdeeds', List.append_nil], htried.after hidle⟩

theorem handOff_inv (hg : Ledger.Grounded o.ledger.layout s.store) (hs : Holds o key found s)
    (h : Runs react (o.handOff key) s vs () u) : ∃ live attempt, Reads o key found u live ∧
      HandedOff key live (deeds vs) attempt ∧ Attempted o key found attempt s u := by
  obtain ⟨vs₁, vs₂, r, t, rfl, hstatus, hrest⟩ := h.bind_inv
  obtain ⟨hdeeds, hidle, live, rfl, hreads⟩ := hstatus.status_inv hg hs
  rw [deeds_append, hdeeds, List.nil_append]
  split at hrest
  · next hstarting =>
    obtain rfl := Except.ok.inj hstarting
    obtain rfl : some .starting = found := hreads.resolve_right fun h => by cases h.1
    obtain ⟨vs₃, vs₄, answer, t', rfl, hcall, hrest⟩ := hrest.bind_inv
    obtain ⟨hdeeds, hidle'⟩ := hcall.call_inv
    rw [deeds_append, hdeeds]
    cases answer with
    | ok _ =>
      obtain ⟨rfl, -, rfl⟩ := hrest.pure_inv
      exact ⟨_, none, .inl rfl, .accepted rfl, hidle.trans hidle'⟩
    | error e =>
      have hidle := hidle.trans hidle'
      obtain ⟨hdeeds, htried⟩ := hrest.giveUp_inv (hidle.grounded hg) (hs.idle hidle)
      rw [hdeeds]
      exact ⟨_, some .error, .inl rfl, .refused rfl e, htried.after hidle⟩
  · next hother =>
    obtain ⟨rfl, -, rfl⟩ := hrest.pure_inv
    exact ⟨live, none, hreads, .passedOver fun e => hother (congrArg Except.ok e), hidle⟩

theorem checkDependencies_inv (hg : Ledger.Grounded o.ledger.layout s.store)
    (hs : Holds o key found s) (h : Runs react (o.checkDependencies key) s vs () u) :
    ∃ live attempt, Reads o key found u live ∧ Checked key live (deeds vs) attempt ∧
      Attempted o key found attempt s u := by
  obtain ⟨vs₁, vs₂, answer, t, rfl, hcall, hrest⟩ := h.bind_inv
  obtain ⟨hdeeds, hidle⟩ := hcall.call_inv
  rw [deeds_append, hdeeds]
  have hg' := hidle.grounded hg
  have hs' := hs.idle hidle
  cases answer with
  | error e =>
    obtain ⟨hdeeds, htried⟩ := hrest.giveUp_inv hg' hs'
    rw [hdeeds]
    exact ⟨found, some .error, .inl rfl, .failed e, htried.after hidle⟩
  | ok graph =>
    dsimp only at hrest
    split at hrest
    · next hempty =>
      obtain ⟨live, attempt, hreads, hexit, hattempt⟩ := hrest.handOff_inv hg' hs'
      exact ⟨live, attempt, hreads, .consistent graph (List.isEmpty_iff.1 hempty) hexit,
        hattempt.after hidle⟩
    · next hproblems =>
      obtain ⟨vs₃, vs₄, _, t', rfl, hlog, hend⟩ := hrest.bind_inv
      obtain ⟨hdeeds, hidle'⟩ := hlog.logAll_inv
      obtain ⟨hdeeds', htried⟩ := hend.conclude_inv (hidle'.grounded hg') (hs'.idle hidle')
      rw [deeds_append, hdeeds, hdeeds', List.map_map, List.append_nil]
      exact ⟨found, some .dependency, .inl rfl,
        .inconsistent graph fun e => hproblems (List.isEmpty_iff.2 e),
        (htried.after hidle').after hidle⟩

theorem prepare_inv (hg : Ledger.Grounded o.ledger.layout s.store) (hs : Holds o key found s)
    (h : Runs react (o.prepare key) s vs () u) : ∃ live attempt, Reads o key found u live ∧
      Prepared key live (deeds vs) attempt ∧ Attempted o key found attempt s u := by
  unfold prepare at h
  split at h
  · next id target href =>
    obtain ⟨vs₁, vs₂, answer, t, rfl, hcall, hrest⟩ := h.bind_inv
    obtain ⟨hdeeds, hidle⟩ := hcall.inTurn_inv
    rw [deeds_append, hdeeds]
    have hg' := hidle.grounded hg
    have hs' := hs.idle hidle
    rcases answer with e | commit | _ | _
    · obtain ⟨hdeeds, htried⟩ := hrest.giveUp_inv hg' hs'
      rw [hdeeds]
      exact ⟨found, some .error, .inl rfl, .failed href e, htried.after hidle⟩
    · obtain ⟨hdeeds, htried⟩ := hrest.giveUp_inv hg' hs'
      rw [hdeeds]
      exact ⟨found, some .rebased, .inl rfl, .rebased href commit, htried.after hidle⟩
    · obtain ⟨live, attempt, hreads, hexit, hattempt⟩ := hrest.checkDependencies_inv hg' hs'
      exact ⟨live, attempt, hreads, .upToDate href hexit, hattempt.after hidle⟩
    · obtain ⟨hdeeds, htried⟩ := hrest.giveUp_inv hg' hs'
      rw [hdeeds]
      exact ⟨found, some .conflict, .inl rfl, .conflict href, htried.after hidle⟩
  · next name href =>
    obtain ⟨live, attempt, hreads, hexit, hattempt⟩ := h.checkDependencies_inv hg hs
    exact ⟨live, attempt, hreads, .branch href hexit, hattempt⟩

end Runs

/-- A job that was starting has been moved to a state that ends it, or is with the executor. -/
structure Resolved (o : Orchestrator) (key : JobKey) (attempt : Option QueueState)
    (s t : Site σ) : Prop where
  status : t.store.status? (o.ledger.layout.status key) =
    some (attempt.getD .starting).name
  active : s.store.InPool o.ledger.layout.pools.active key.text
  kept : attempt = none → Idle s t ∧ t.store.InPool o.ledger.layout.pools.active key.text
  left : ∀ state ∈ attempt, state ∈ exits ∧
    Moved o key .starting state s t ∧ ¬ t.store.InPool o.ledger.layout.pools.active key.text

theorem Attempted.resolved (h : Attempted o key (some .starting) attempt s t)
    (hexits : ∀ state ∈ attempt, state ∈ exits)
    (hs : s.store.status? (o.ledger.layout.status key) = some QueueState.starting.name)
    (hactive : s.store.InPool o.ledger.layout.pools.active key.text)
    (ht : t.store.status? (o.ledger.layout.status key) ≠ none) :
    Resolved o key attempt s t := by
  obtain ⟨raw, hraw⟩ := Option.ne_none_iff_exists'.1 ht
  cases attempt with
  | none =>
    have hidle : Idle s t := h
    refine ⟨?_, hactive, fun _ => ⟨hidle, ?_⟩, nofun⟩
    · rw [hraw, ← hidle.status? hraw, hs]
      rfl
    · obtain ⟨⟨ms, hms⟩, -⟩ := hidle
      rw [hms]
      exact (InProcess.inPool_advance _ _ _ _).2 hactive
  | some state =>
    have hmem := hexits state rfl
    have hstate : QueueState.starting.canBecome state = true ∧ state.isTerminal = true := by
      revert hmem
      cases state <;> decide
    have hmoved : Moved o key .starting state s t := by
      obtain ⟨current, hc, -, hm⟩ | ⟨-, hnone⟩ := h
      · obtain rfl := Option.some.inj hc
        exact hm
      · exact absurd (hnone _ rfl hstate.1) ht
    refine ⟨hraw.trans (congrArg some (hmoved.status? hraw)), hactive, nofun, ?_⟩
    rintro _ ⟨⟩
    exact ⟨hmem, hmoved, hmoved.not_active hstate.2⟩

/-- A job that waits, has ended or is not known is moved nowhere. -/
theorem Attempted.idle (h : Attempted o key found attempt s t)
    (hexits : ∀ state ∈ attempt, state ∈ exits)
    (hstarting : found ≠ some .starting) (hstarted : found ≠ some .started) : Idle s t := by
  cases attempt with
  | none => exact h
  | some state =>
    obtain ⟨current, rfl, hcan, -⟩ | ⟨hidle, -⟩ := h
    · rcases busy_of_canBecome_exit hcan (hexits state rfl) with rfl | rfl
      · exact absurd rfl hstarting
      · exact absurd rfl hstarted
    · exact hidle

end Site

open Site

/-- The handler of an admission, in a store that comes about in any run and whatever is answered. A
job that is starting has been resolved when the handler is done, unless its status has expired. A
job that was superseded, so that it waits again, has ended or is not known, is left alone: the
executor is not asked to start it, and nothing happens in the store. -/
theorem System.run_starting {σ : Type} (o : Orchestrator)
    (react : σ → interface.Request → Moment × σ) (events : List Event) (mailbox : Mailbox)
    (around : σ) (key : JobKey) (previous : Option QueueState) (superseded : Bool)
    {found : Option QueueState} (hfound : (({} : System).run o events).store.status?
      (o.ledger.layout.status key) = found.map QueueState.name)
    (hstarted : found ≠ some .started) :
    let s : Site σ := ⟨(({} : System).run o events).store, mailbox, around⟩
    let p := o.onTransition ⟨key, .starting, previous, superseded⟩
    let t := s.run react p
    let done := deeds (p.visits (Site.serve react) s)
    (found = some .starting → t.store.status? (o.ledger.layout.status key) ≠ none →
      ∃ attempt, Resolved o key attempt s t ∧ Outcome key done attempt ∧
        done.filterMap Deed.call? <+: preparation key ∧
        ((∃ answer, .call (.dependencyGraph key.source key.commit) answer ∈ done) ↔
          (∃ name, key.ref = .branch name) ∨
            ∃ id, .call (.rebase key.source id) (.ok .upToDate) ∈ done)) ∧
    (found ≠ some .starting → Idle s t ∧ done.filter Deed.starts = []) := by
  intro s p t done
  have hholds : Holds o key found s := fun raw hraw => hfound.symm.trans hraw
  obtain ⟨live, attempt, hreads, hexit, hattempt⟩ :=
    (runs react (o.prepare key) s).prepare_inv (grounded_run o events) hholds
  have hexits : ∀ state ∈ attempt, state ∈ exits := by
    rintro state rfl
    exact hexit.mem_exits
  constructor
  · rintro rfl hlive
    obtain rfl : live = some .starting := hreads.resolve_right fun h => hlive h.2
    have hactive : s.store.InPool o.ledger.layout.pools.active key.text := by
      obtain ⟨lane, hf, ha⟩ := Ledger.exists_lane (lawful_history o events)
      rw [← (sound_run o events).store] at hf ha
      exact (hf.active _).2 (ha.running_of_busy (.inl hfound))
    exact ⟨attempt, hattempt.resolved hexits hfound hactive hlive, hexit.outcome, hexit.calls,
      hexit.exists_graph_iff⟩
  · intro hne
    have hl : live ≠ some .starting := by
      rcases hreads with rfl | ⟨rfl, -⟩
      · exact hne
      · nofun
    exact ⟨hattempt.idle hexits hne hstarted, hexit.not_starts hl⟩

/-- Systems of which the one for dependencies misses something. -/
def missing : (c : Call) → Except DomainError c.Answer
  | .dependencyGraph .. => .ok ⟨[], [.missing "d"]⟩
  | c => obliging c

/-- An update was opened, and its job was admitted. -/
def System.admittedOnce : List Event :=
  .begin (opened "1") :: steps 0 6 ++ .take :: steps 1 2

/-- The job that was admitted is moved to DEPENDENCY, and one that was never pushed is passed
over. -/
theorem System.run_starting_admittedOnce :
    let react : Unit → interface.Request → Moment × Unit := fun _ _ => ({ answer := missing }, ())
    let s : Site Unit := ⟨(({} : System).run solo admittedOnce).store, {}, ()⟩
    let handle (id : String) := s.run react
      (solo.onTransition ⟨Ledger.rival id, .starting, some .queued, false⟩)
    (handle "1").store.status? (solo.ledger.layout.status (Ledger.rival "1")) =
        some QueueState.dependency.name ∧
      (∃ attempt, Resolved solo (Ledger.rival "1") attempt s (handle "1")) ∧
      Idle s (handle "2") := by
  intro react s handle
  have hdependency : (handle "1").store.status? (solo.ledger.layout.status (Ledger.rival "1")) =
      some QueueState.dependency.name := by
    decide +kernel
  have hstarting : s.store.status? (solo.ledger.layout.status (Ledger.rival "1")) =
      (some QueueState.starting).map QueueState.name := by
    decide +kernel
  have habsent : s.store.status? (solo.ledger.layout.status (Ledger.rival "2")) =
      (none : Option QueueState).map QueueState.name := by
    decide +kernel
  refine ⟨hdependency, ?_, ?_⟩
  · obtain ⟨attempt, hresolved, -⟩ := (run_starting solo react admittedOnce {} ()
      (Ledger.rival "1") (some .queued) false hstarting nofun).1 rfl
      fun hnone => Option.some_ne_none _ (hdependency.symm.trans hnone)
    exact ⟨attempt, hresolved⟩
  · exact ((run_starting solo react admittedOnce {} () (Ledger.rival "2") (some .queued) false
      habsent nofun).2 nofun).1

end BuildQueue.Orchestrator
