import BuildQueue.Proofs.Ledger.Atomicity
import BuildQueue.Proofs.Orchestrator.Effects
import BuildQueue.Proofs.Orchestrator.Journal
import BuildQueue.Proofs.Orchestrator.Success

/-!
# What a handler does on its way

A handler that works alone comes to a result and to a site, past a row of visits (`Runs`). What it
does to the systems around is its deeds (`deeds`), which are those of the path that it goes down
(`Runs.path`). A run is taken apart along the handler (`Runs.bind_inv`), and each kind of request
has its own inversion. Whatever asks nothing of the ledger leaves a site idle: time passes, and that
is all that happens to the store (`Idle`).
-/

namespace BuildQueue.Orchestrator

/-- Whatever it is answered, the program asks nothing of the ledger. -/
def Outside {α : Type} (p : Handler α) : Prop :=
  p.Asks fun r : interface.Request => ∃ q : Request, r = .inr q

theorem Staged.outside {α : Type} {lo hi : Nat} {p : Handler α} (h : Staged lo hi p) :
    Outside p := by
  induction p generalizing lo with
  | done a => trivial
  | ask r next ih =>
    cases r with
    | inl r => exact h.elim
    | inr r =>
      refine ⟨⟨r, rfl⟩, fun x => ?_⟩
      cases r with
      | call c => exact ih x (h.2 x)
      | _ => exact ih x (h x)

namespace Site

variable {σ α β : Type} {o : Orchestrator} {react : σ → interface.Request → Moment × σ}
  {s t u : Site σ}

/-- Exchanges, each with the site that it leaves. -/
abbrev Visits (σ : Type) : Type := List (Exchange interface × Site σ)

/-- The deeds among the exchanges. -/
def deeds (vs : Visits σ) : List Deed := vs.filterMap fun visit => deed? visit.1

@[simp] theorem deeds_append (vs ws : Visits σ) : deeds (vs ++ ws) = deeds vs ++ deeds ws :=
  List.filterMap_append

theorem deeds_eq (vs : Visits σ) : deeds vs = deedsOf (vs.map Prod.fst) := by
  rw [deedsOf, List.filterMap_map]
  rfl

/-! ## Idle sites -/

/-- Nothing has happened from one site to the other but that time has passed and the executor has
reported. -/
structure Idle (s t : Site σ) : Prop where
  store : ∃ ms, t.store = s.store.advance ms
  transitions : t.mailbox.transitions = s.mailbox.transitions

namespace Idle

theorem refl (s : Site σ) : Idle s s := ⟨⟨0, rfl⟩, rfl⟩

theorem trans (h : Idle s t) (h' : Idle t u) : Idle s u := by
  obtain ⟨⟨m, hm⟩, ht⟩ := h
  obtain ⟨⟨n, hn⟩, ht'⟩ := h'
  exact ⟨⟨m + n, by rw [hn, hm, InProcess.advance_advance]⟩, ht'.trans ht⟩

/-- A status that is live afterwards was live before. -/
theorem status? (h : Idle s t) {name raw : String} (ht : t.store.status? name = some raw) :
    s.store.status? name = some raw := by
  obtain ⟨⟨ms, hms⟩, -⟩ := h
  exact InProcess.status?_advance s.store (hms ▸ ht)

theorem grounded {layout : KeyLayout} (h : Idle s t) (hg : Ledger.Grounded layout s.store) :
    Ledger.Grounded layout t.store := by
  obtain ⟨⟨ms, hms⟩, -⟩ := h
  exact hms ▸ hg.advance ms

end Idle

/-! ## Runs -/

/-- From the site `s` the handler comes to the result `a` and the site `t`, past the visits. -/
structure Runs (react : σ → interface.Request → Moment × σ) (p : Handler α) (s : Site σ)
    (vs : Visits σ) (a : α) (t : Site σ) : Prop where
  run : p.run (serve react) s = (a, t)
  visits : p.visits (serve react) s = vs

variable {vs : Visits σ} {a : α}

theorem runs (react : σ → interface.Request → Moment × σ) (p : Handler Unit) (s : Site σ) :
    Runs react p s (p.visits (serve react) s) () (s.run react p) := ⟨rfl, rfl⟩

namespace Runs

theorem pure_inv {b : α} (h : Runs react (Pure.pure b) s vs a t) : vs = [] ∧ a = b ∧ t = s := by
  obtain ⟨hrun, hvisits⟩ := h
  cases hrun
  exact ⟨hvisits.symm, rfl, rfl⟩

/-- The run of two programs in a row is the run of the first one and then that of the second. -/
theorem bind_inv {p : Handler α} {f : α → Handler β} {b : β}
    (h : Runs react (p >>= f) s vs b u) : ∃ vs₁ vs₂ a t, vs = vs₁ ++ vs₂ ∧
      Runs react p s vs₁ a t ∧ Runs react (f a) t vs₂ b u := by
  obtain ⟨hrun, hvisits⟩ := h
  exact ⟨_, _, _, _, hvisits.symm.trans (Prog.visits_bind p f s), ⟨rfl, rfl⟩,
    ⟨(Prog.run_bind p f s).symm.trans hrun, rfl⟩⟩

/-- What asks nothing of the ledger leaves the site idle at every step. -/
theorem idle {p : Handler α} (h : Runs react p s vs a t) (hp : Outside p) :
    Idle s t ∧ ∀ visit ∈ vs, Idle s visit.2 := by
  obtain ⟨hrun, rfl⟩ := h
  induction p generalizing s with
  | done b =>
    cases hrun
    exact ⟨.refl _, fun _ hm => absurd hm List.not_mem_nil⟩
  | ask r next ih =>
    obtain ⟨⟨q, rfl⟩, hnext⟩ := hp
    have hserve : Idle s (serve react (.inr q) s).2 := by
      cases q <;> exact ⟨⟨_, rfl⟩, rfl⟩
    obtain ⟨ht, hvs⟩ := ih _ (hnext _) hrun
    exact ⟨hserve.trans ht, List.forall_mem_cons.2 ⟨hserve, fun v hv => hserve.trans (hvs v hv)⟩⟩

/-- A run goes down the path of its visits. -/
theorem path {p : Handler α} (h : Runs react p s vs a t) : p.Path (vs.map Prod.fst) (.done a) := by
  obtain ⟨hrun, rfl⟩ := h
  have hpath := Prog.path_visits (serve react) p s
  rwa [hrun] at hpath

theorem call_inv {c : Call} {answer : Except DomainError c.Answer}
    (h : Runs react (call c) s vs answer t) : deeds vs = [.call c answer] ∧ Idle s t :=
  ⟨(deeds_eq vs).trans (deedsOf_call h.path), (h.idle ⟨⟨_, rfl⟩, fun _ => trivial⟩).1⟩

theorem inTurn_inv {turn : String} {c : Call} {answer : Except DomainError c.Answer}
    (h : Runs react (inTurn turn c) s vs answer t) : deeds vs = [.call c answer] ∧ Idle s t :=
  ⟨(deeds_eq vs).trans (deedsOf_inTurn h.path),
    (h.idle ⟨⟨_, rfl⟩, fun _ => ⟨⟨_, rfl⟩, fun _ => ⟨⟨_, rfl⟩, fun _ => trivial⟩⟩⟩).1⟩

theorem log_inv {key : JobKey} {level : LogLevel} {message : String}
    (h : Runs react (log key level message) s vs () t) :
    deeds vs = [.note key level message] ∧ Idle s t :=
  ⟨(deeds_eq vs).trans (deedsOf_log h.path), (h.idle ⟨⟨_, rfl⟩, fun _ => trivial⟩).1⟩

theorem logAll_inv {key : JobKey} {level : LogLevel} {messages : List String}
    (h : Runs react (logAll key level messages) s vs () t) :
    deeds vs = messages.map (.note key level) ∧ Idle s t := by
  induction messages generalizing s vs with
  | nil =>
    obtain ⟨rfl, -, rfl⟩ := h.pure_inv
    exact ⟨rfl, .refl _⟩
  | cons message rest ih =>
    obtain ⟨vs₁, vs₂, _, t₁, rfl, hlog, hrest⟩ := h.bind_inv
    obtain ⟨hdeeds, hidle⟩ := hlog.log_inv
    obtain ⟨hdeeds', hidle'⟩ := ih hrest
    exact ⟨by rw [deeds_append, hdeeds, hdeeds', List.map_cons, List.singleton_append],
      hidle.trans hidle'⟩

/-! ## The ledger -/

/-- A call of the ledger as the ledger sees it; it is no deed. -/
theorem ofLedger_inv {p : Prog Ledger.interface α} (h : Runs react (ofLedger p) s vs a t) :
    deeds vs = [] ∧ p.run (serveLedger react) s = (a, t) := by
  obtain ⟨hrun, rfl⟩ := h
  refine ⟨?_, (Prog.run_inl p s).symm.trans hrun⟩
  clear hrun
  induction p generalizing s with
  | done a => rfl
  | ask r next ih => exact ih _

end Runs

theorem hosts (react : σ → interface.Request → Moment × σ) :
    Ledger.Hosts (serveLedger react) Site.store fun s => s.mailbox.transitions where
  ask _ _ := ⟨_, _, rfl, rfl, rfl⟩
  post _ _ := ⟨_, rfl, rfl⟩

variable {key : JobKey} {state current : QueueState} {found : Option QueueState}

/-- The status of the job is what was found, or has expired since. -/
def Holds (o : Orchestrator) (key : JobKey) (found : Option QueueState) (s : Site σ) : Prop :=
  ∀ raw, s.store.status? (o.ledger.layout.status key) = some raw →
    found.map QueueState.name = some raw

theorem Holds.idle (h : Holds o key found s) (hst : Idle s t) : Holds o key found t :=
  fun raw hraw => h raw (hst.status? hraw)

/-- What is read of the status is what was found, or that it has expired. -/
def Reads (o : Orchestrator) (key : JobKey) (found : Option QueueState) (s : Site σ)
    (live : Option QueueState) : Prop :=
  live = found ∨ (live = none ∧ s.store.status? (o.ledger.layout.status key) = none)

/-- The job has been moved from one state to another, and that has been posted. -/
structure Moved (o : Orchestrator) (key : JobKey) (current state : QueueState) (s t : Site σ) :
    Prop where
  change : ∃ (elapsed : Nat) (now : Int),
    Ledger.Transformed o.ledger key state now (s.store.advance elapsed) t.store
  posted : t.mailbox.transitions = s.mailbox.transitions ++ [⟨key, state, some current, false⟩]

namespace Moved

theorem after (h : Moved o key current state t u) (hst : Idle s t) :
    Moved o key current state s u := by
  obtain ⟨⟨elapsed, now, hchange⟩, hposted⟩ := h
  obtain ⟨⟨ms, hms⟩, htransitions⟩ := hst
  rw [hms, InProcess.advance_advance] at hchange
  exact ⟨⟨_, now, hchange⟩, htransitions ▸ hposted⟩

theorem before (h : Moved o key current state s t) (htu : Idle t u) :
    Moved o key current state s u := by
  obtain ⟨⟨elapsed, now, hchange⟩, hposted⟩ := h
  obtain ⟨⟨ms, hms⟩, htransitions⟩ := htu
  exact ⟨⟨elapsed, now, hms ▸ hchange.advance ms⟩, htransitions.trans hposted⟩

/-- The state is what the status says as long as it says anything. -/
theorem status? (h : Moved o key current state s t) {raw : String}
    (ht : t.store.status? (o.ledger.layout.status key) = some raw) : raw = state.name := by
  obtain ⟨⟨elapsed, now, hchange⟩, -⟩ := h
  have hraw := InProcess.text_of_status? ht
  rw [hchange.entry] at hraw
  exact (Option.some.inj hraw).symm

/-- It says so for as long as a status lives. -/
theorem live (h : Moved o key current state s t)
    (ht : t.store.clock < s.store.clock + o.ledger.ttl) :
    t.store.status? (o.ledger.layout.status key) = some state.name := by
  obtain ⟨⟨elapsed, now, hchange⟩, -⟩ := h
  rw [InProcess.status?_eq_bind, hchange.entry]
  have hclock : (s.store.advance elapsed).clock = s.store.clock + elapsed := rfl
  exact if_neg (by dsimp only; omega)

theorem not_active (h : Moved o key current state s t) (hs : state.isTerminal = true) :
    ¬ t.store.InPool o.ledger.layout.pools.active key.text := by
  obtain ⟨⟨elapsed, now, hchange⟩, -⟩ := h
  exact (hchange.leaves hs).lacks.active

end Moved

namespace Runs

variable {r : Ledger.Result (Option QueueState)} {b : Bool}

theorem status_inv (hg : Ledger.Grounded o.ledger.layout s.store) (hs : Holds o key found s)
    (h : Runs react (ofLedger (o.ledger.status key)) s vs r t) :
    deeds vs = [] ∧ Idle s t ∧ ∃ live, r = .ok live ∧ Reads o key found t live := by
  obtain ⟨hdeeds, hrun⟩ := h.ofLedger_inv
  obtain ⟨ms, hr, hstore, hposted⟩ := (hosts react).run_status (l := o.ledger) key s
  rw [hrun] at hr hstore hposted
  have hidle : Idle s t := ⟨⟨ms, hstore⟩, hposted⟩
  obtain ⟨live, hlive⟩ : ∃ live : Option QueueState, t.store.status?
      (o.ledger.layout.status key) = live.map QueueState.name :=
    (hidle.grounded hg).exists_state key.text
  refine ⟨hdeeds, hidle, live, ?_, ?_⟩
  · rw [← hstore, hlive] at hr
    exact hr.trans (Ledger.readState_map_name live)
  · cases live with
    | none => exact .inr ⟨rfl, hlive⟩
    | some state =>
      obtain ⟨other, rfl, hname⟩ := Option.map_eq_some_iff.1 (hs.idle hidle _ hlive)
      exact .inl (congrArg some (QueueState.name_inj hname).symm)

/-- A state is recorded if the table allows it and the status has not expired. -/
theorem record_inv (hg : Ledger.Grounded o.ledger.layout s.store) (hs : Holds o key found s)
    (h : Runs react (o.record key state) s vs b t) : deeds vs = [] ∧
      ((b = true ∧ ∃ current ∈ found, current.canBecome state = true ∧
          Moved o key current state s t) ∨
        (b = false ∧ Idle s t ∧ ∀ current ∈ found, current.canBecome state = true →
          t.store.status? (o.ledger.layout.status key) = none)) := by
  rw [record_eq] at h
  obtain ⟨vs₁, vs₂, result, t₁, rfl, happly, hdone⟩ := h.bind_inv
  obtain ⟨rfl, rfl, rfl⟩ := hdone.pure_inv
  obtain ⟨hdeeds, hrun⟩ := happly.ofLedger_inv
  obtain ⟨elapsed, now, live, -, hat⟩ :=
    (hosts react).run_apply (l := o.ledger) hg key state false
  rw [Ledger.addState] at hrun
  rw [hrun] at hat
  refine ⟨by rw [List.append_nil, hdeeds], ?_⟩
  cases result with
  | ok posted =>
    obtain ⟨current, rfl, hcan⟩ := hat.ok_iff.1 ⟨posted, rfl⟩
    obtain ⟨rfl, hposted, hchange⟩ := hat.ok posted rfl
    obtain ⟨other, rfl, hname⟩ := Option.map_eq_some_iff.1
      (hs _ (InProcess.status?_advance s.store hat.live))
    rw [QueueState.name_inj hname]
    exact .inl ⟨rfl, current, rfl, hcan, ⟨elapsed, now, hchange⟩, hposted⟩
  | error e =>
    obtain ⟨-, hstore, hposted⟩ := hat.error e rfl
    have hidle : Idle s t := ⟨⟨elapsed, hstore⟩, hposted⟩
    refine .inr ⟨rfl, hidle, fun current hc hcan => ?_⟩
    have hlive := hat.live
    rw [← hstore] at hlive
    cases live with
    | none => exact hlive
    | some other =>
      have hname := (hs.idle hidle) _ hlive
      rw [Option.mem_def.1 hc] at hname
      rw [QueueState.name_inj (Option.some.inj hname)] at hcan
      obtain ⟨_, hok⟩ := hat.ok_iff.2 ⟨other, rfl, hcan⟩
      cases hok

end Runs

end Site

/-- In every run, the store is one that the ledger is used with. -/
theorem System.grounded_run (o : Orchestrator) (events : List Event) :
    Ledger.Grounded o.ledger.layout (({} : System).run o events).store := by
  rw [(sound_run o events).store]
  exact .run (lawful_history o events)

end BuildQueue.Orchestrator
