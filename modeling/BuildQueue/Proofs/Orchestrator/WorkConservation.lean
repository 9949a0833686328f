import BuildQueue.Proofs.Orchestrator.Acts
import BuildQueue.Proofs.Orchestrator.Effects
import BuildQueue.Proofs.Orchestrator.Journal

/-!
# No slot stays free while a job is ready

A slot is freed and a job becomes ready at many places, but wherever that happens the worker is told
of a transition for which it starts jobs. So at each moment between two handlers there is no ready
job that could have a slot, or such a transition waits in the mailbox (`Tidy`). Each act keeps a
site tidy, and a start makes it so. When the worker has handled all events, no transition is left
that waits (`work_conserving`).
-/

namespace BuildQueue

/-- The worker starts jobs when it is told of the transition. -/
def Transition.Drains (t : Transition) : Prop := t.state ≠ .starting ∧ t.state ≠ .started

/-- The end of a job has the worker start others. -/
theorem Transition.drains_of_terminal {t : Transition} (h : t.state.isTerminal = true) :
    t.Drains := by
  constructor
  · intro e
    rw [e] at h
    cases h
  · intro e
    rw [e] at h
    cases h

namespace Orchestrator

variable {σ : Type} {o : Orchestrator} {react : σ → interface.Request → Moment × σ}
  {s t : Site σ} {n : Nat}

namespace Site

/-- No slot is free while a job is ready, or the worker will be told. -/
structure Tidy (o : Orchestrator) (s : Site σ) : Prop where
  lanes : s.OnLanes o.ledger.layout
  owed : s.store.Exhausted o.ledger.layout.pools o.config.coordinator.concurrency.toNat ∨
    ∃ t ∈ s.mailbox.transitions, t.Drains

theorem tidy_patient : Patient react (Tidy o) :=
  fun _ _ hs => ⟨hs.lanes.pass _ _, hs.owed⟩

theorem Tidy.owe (h : s.Tidy o) (ts : List Transition) : (s.owe ts).Tidy o where
  lanes := h.lanes
  owed := by
    refine h.owed.imp_right fun ⟨t, ht, hd⟩ => ?_
    exact ⟨t, List.mem_append_left _ ht, hd⟩

/-- Posting a transition makes good for a free slot. -/
theorem OnLanes.tidy_owe (h : s.OnLanes o.ledger.layout) {t : Transition} (ht : t.Drains) :
    (s.owe [t]).Tidy o where
  lanes := h
  owed := .inr ⟨t, List.mem_append_right _ (List.mem_singleton_self t), ht⟩

/-! ## Acts -/

/-- An end of a job frees a slot, and any other change moves no job. -/
theorem Tidy.swap (hs : s.Tidy o) {key : JobKey} {current : QueueState}
    (he : s.store.status? (o.ledger.layout.status key) = some current.name) (state : QueueState)
    (superseded : Bool) (now : Int) :
    let done := s.store.swap o.ledger.layout.pools (o.ledger.swapOf key current state)
      o.ledger.ttl now
    ({ s with store := done.2 }.owe [⟨key, state, some current, superseded⟩]).Tidy o := by
  intro done
  by_cases ht : state.isTerminal = true
  · have hlanes := hs.lanes.perform (c := .swap o.ledger.layout.pools
      (o.ledger.swapOf key current state) o.ledger.ttl)
      ⟨rfl, (o.ledger.layout.home_text key).symm⟩ now
    exact OnLanes.tidy_owe hlanes (Transition.drains_of_terminal ht)
  · obtain ⟨held, e⟩ := @InProcess.swap_of_eq s.store o.ledger.layout.pools
      (o.ledger.swapOf key current state) he o.ledger.ttl now
    have hstore : done.2 = s.store.setStatus (o.ledger.layout.pools.status key.text) state.name
        o.ledger.ttl :=
      (congrArg Prod.snd e).trans (if_neg ht)
    rw [hstore]
    exact Tidy.owe ⟨hs.lanes.setStatus _ _ _, hs.owed⟩ _

theorem push_tidy (key : JobKey) :
    (o.ledger.push key).Leads (serveLedger react) (Tidy o) fun _ => Tidy o := by
  refine push_leads tidy_patient (fun s now hs _ => ?_) fun other state s now current hs he =>
    hs.swap he state true now
  have hlanes := hs.lanes.perform (c := .push (o.ledger.layout.queue key) o.ledger.layout.pools
    key.text key.canonicalId o.ledger.ttl) ⟨rfl, (o.ledger.layout.home_text key).symm⟩ now
  exact OnLanes.tidy_owe hlanes ⟨by simp, by simp⟩

/-- A start makes a site tidy. -/
theorem start_tidy :
    (o.ledger.start o.config.coordinator.concurrency.toNat).Leads (serveLedger react)
      (OnLanes o.ledger.layout) fun _ => Tidy o := by
  refine start_leads (fun _ s hs => hs.pass _ _) tidy_patient fun s now hs => Tidy.owe ?_ _
  obtain ⟨lane, hf⟩ := hs
  have hd := o.ledger.layout.pools_distinct
  exact ⟨OnLanes.perform ⟨lane, hf⟩ (c := .start _ _ _) rfl now,
    .inl (hf.exhausted_start hd _ _ now)⟩

theorem act_tidy (a : Act) : (a.program o).Leads (serve react) (Tidy o) fun _ => Tidy o := by
  cases a with
  | status key => exact .inl (status_leads tidy_patient key)
  | record key state _ =>
    exact .inl (apply_leads tidy_patient tidy_patient (fun _ hs => hs) fun s now current hs he =>
      hs.swap he state false now)
  | push key => exact .inl (push_tidy key)
  | drain => exact .inl (start_tidy.weaken (fun _ hs => hs.lanes) fun _ _ hs => hs)
  | request r =>
    refine .request fun s hs => ?_
    have hpass : (s.pass react (.inr r)).Tidy o := ⟨hs.lanes.pass _ _, hs.owed⟩
    cases r <;> exact hpass

/-! ## Handlers -/

/-- What is made of acts keeps a site tidy. -/
theorem tidy_of_costs {α : Type} {c : Nat} {k : ℕ∞} {p : Handler α} (h : Costs o c k p) :
    p.Leads (serve react) (Tidy o) fun _ => Tidy o := by
  induction h with
  | done k a => exact .done fun _ hs => hs
  | act a _ _ ih => exact .bind (act_tidy a) ih

theorem drain_tidy :
    o.drain.Leads (serve react) (OnLanes o.ledger.layout) fun _ => Tidy o :=
  .bind (.inl start_tidy) fun _ => .done fun _ hs => hs

/-- The handler of a transition for which jobs are started makes a site tidy. -/
theorem onTransition_tidy {t : Transition} (ht : t.Drains) :
    (o.onTransition t).Leads (serve react) (OnLanes o.ledger.layout) fun _ => Tidy o := by
  unfold onTransition
  split
  · next hs => exact absurd hs ht.1
  · exact drain_tidy
  · next hs => exact absurd hs ht.2
  · split
    · refine .bind (Q := fun _ => OnLanes o.ledger.layout) (.request fun s hs => ?_) fun _ => ?_
      · exact hs.pass _ _
      · exact drain_tidy
    · exact drain_tidy
  · exact drain_tidy

/-! ## The worker -/

theorem Tidy.handleNext (h : s.Tidy o) (hn : s.handleNext o react = some t) : t.Tidy o := by
  obtain ⟨⟨e, mailbox⟩, he, rfl⟩ := Option.map_eq_some_iff.1 hn
  rcases Mailbox.take?_eq_some he with ⟨t, rfl, ht, -⟩ | ⟨r, rfl, ht, -⟩
  · by_cases hd : t.Drains
    · exact onTransition_tidy hd { s with mailbox } h.lanes
    · -- The transition is not the one that is owed.
      refine tidy_of_costs (onTransition_costs (c := 0) t) { s with mailbox } ⟨h.lanes, ?_⟩
      refine h.owed.imp_right fun ⟨t', hm, hd'⟩ => ?_
      rw [ht] at hm
      rcases List.mem_cons.1 hm with rfl | hm
      · exact absurd hd' hd
      · exact ⟨t', hm, hd'⟩
  · refine tidy_of_costs (onOutcome_costs (c := 0) r) { s with mailbox } ⟨h.lanes, ?_⟩
    show _ ∨ ∃ t ∈ mailbox.transitions, t.Drains
    rw [← ht]
    exact h.owed

theorem Settles.tidy (hs : Settles o react s n t) (h : s.Tidy o) : t.Tidy o := by
  induction hs with
  | idle _ => exact h
  | next hn _ ih => exact ih (h.handleNext hn)

theorem Reached.tidy (h : Reached o react s) : s.Tidy o := by
  induction h with
  | start around => exact ⟨⟨_, InProcess.Follows.empty⟩, .inl (.inl (InProcess.members_empty _))⟩
  | occasion _ x ih => exact tidy_of_costs (x.costs o 0) _ ih
  | report _ r ih => exact ⟨ih.lanes, ih.owed⟩
  | advance _ ms ih =>
    obtain ⟨lane, hf⟩ := ih.lanes
    exact ⟨⟨lane, hf.advance ms⟩, ih.owed⟩
  | settle _ h ih => exact h.tidy ih

end Site

/-- Whenever the worker stops, no ready job is left while a slot is free. -/
theorem work_conserving (o : Orchestrator) (react : σ → interface.Request → Moment × σ)
    (hs : Site.Reached o react s) (ht : Site.Settles o react s n t) :
    t.store.members o.ledger.layout.pools.ready = [] ∨
      o.config.coordinator.concurrency.toNat ≤
        (t.store.members o.ledger.layout.pools.active).length := by
  have htidy := ht.tidy hs.tidy
  have hnone := Mailbox.take?_eq_none ht.take?_eq_none
  rcases htidy.owed with he | ⟨t', hm, _⟩
  · exact he
  · rw [hnone] at hm
    cases hm

/-- Systems that do as they are asked, at once and without a report. -/
def calm (_ : Unit) (_ : interface.Request) : Moment × Unit := ({ answer := obliging }, ())

/-- A deployment with one slot. -/
def narrow : Orchestrator :=
  { solo with config := { solo.config with coordinator.concurrency := 1 } }

/-- An update was opened, and its job has the slot. -/
def busy : Site Unit :=
  ((Site.settle? narrow calm 4 (Site.run calm ((opened "1").program narrow) { around := () })).get
    (by decide +kernel)).2

/-- Then an update for another branch was opened, and the worker has not been told yet. -/
def crowded : Site Unit :=
  busy.run calm
    ((Occasion.update ⟨⟨"g", "w"⟩, "2", "n", (Ledger.rival "2").commit⟩ "" none).program narrow)

/-- The job of the other update stays ready, because the slot is taken. -/
theorem work_conserving_crowded : ∃ n t, Site.Settles narrow calm crowded n t ∧
    (t.store.members narrow.ledger.layout.pools.ready).length = 1 ∧
    (t.store.members narrow.ledger.layout.pools.ready = [] ∨
      narrow.config.coordinator.concurrency.toNat ≤
        (t.store.members narrow.ledger.layout.pools.active).length) := by
  have hready : (Site.settle? narrow calm 4 crowded).map (fun last =>
      (last.2.store.members narrow.ledger.layout.pools.ready).length) = some 1 := by
    decide +kernel
  obtain ⟨⟨n, t⟩, ht, hone⟩ := Option.map_eq_some_iff.1 hready
  have hbusy : Site.Reached narrow calm busy :=
    .settle (.occasion (.start ()) _) (Site.settles_of_settle? (Option.some_get _).symm)
  have hs := Site.settles_of_settle? ht
  exact ⟨n, t, hs, hone, work_conserving narrow calm (.occasion hbusy _) hs⟩

end Orchestrator

end BuildQueue
