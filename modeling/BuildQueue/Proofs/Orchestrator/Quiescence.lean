import BuildQueue.Proofs.Orchestrator.Acts
import BuildQueue.Proofs.Orchestrator.Effects
import BuildQueue.Proofs.Orchestrator.Journal

/-!
# The worker comes to rest

An event may bring about others, but each of them has its price. A site has a weight: that of the
events in the mailbox, and for each job that waits for a slot that of the transition that would tell
of its admission (`Site.weight`). A start takes the jobs that it admits from those that wait, so it
adds nothing; a handler adds less than the event weighs that it handles (`handle_costs`). So with
each event that the worker handles the site becomes lighter, and the worker stops with an empty
mailbox (`settles`).
-/

namespace BuildQueue

/-! ## Jobs that wait for a slot -/

namespace InProcess

variable {pools : PoolKeys} {s t : InProcess}

/-- The jobs in a queue that have no slot. -/
def pending (s : InProcess) (pools : PoolKeys) : List String :=
  (s.table pools.owners).keys.filter fun job => (s.score? pools.active job).isNone

theorem mem_pending {job : String} : job ∈ s.pending pools ↔
    (s.field? pools.owners job).isSome = true ∧ ¬ s.InPool pools.active job := by
  rw [pending, List.mem_filter, Std.TreeMap.mem_keys, Std.TreeMap.mem_iff_isSome_getElem?,
    Option.isNone_iff_eq_none, InPool, Option.not_isSome_iff_eq_none]
  rfl

theorem nodup_pending (s : InProcess) (pools : PoolKeys) : (s.pending pools).Nodup :=
  Std.TreeMap.nodup_keys.filter _

theorem length_pending_le (h : ∀ job ∈ t.pending pools, job ∈ s.pending pools) :
    (t.pending pools).length ≤ (s.pending pools).length :=
  ((t.nodup_pending pools).subperm h).length_le

theorem length_pending_lt {job : String} (hs : job ∈ s.pending pools) (ht : job ∉ t.pending pools)
    (h : ∀ j ∈ t.pending pools, j ∈ s.pending pools) :
    (t.pending pools).length < (s.pending pools).length := by
  have hn : (job :: t.pending pools).Nodup := List.nodup_cons.2 ⟨ht, t.nodup_pending pools⟩
  have hsub : job :: t.pending pools ⊆ s.pending pools := List.cons_subset.2 ⟨hs, h⟩
  exact (hn.subperm hsub).length_le

/-- When a job leaves its queue, no job begins to wait. -/
theorem length_pending_retire (s : InProcess) (hd : pools.Distinct) (queue job : String)
    (now : Int) :
    ((s.retire queue pools job now).2.pending pools).length ≤ (s.pending pools).length := by
  refine length_pending_le fun j hj => ?_
  obtain ⟨hf, ha⟩ := mem_pending.1 hj
  rw [field?_retire _ _ _ _ (.inl rfl)] at hf
  rw [inPool_active_retire _ _ _ _ hd] at ha
  by_cases e : j = job
  · rw [if_pos e] at hf
    cases hf
  · rw [if_neg e] at hf
    exact mem_pending.2 ⟨hf, fun h => ha ⟨e, h⟩⟩

theorem length_pending_swap (s : InProcess) (hd : pools.Distinct) (change : StatusSwap) (ttl : Nat)
    (now : Int) :
    ((s.swap pools change ttl now).2.pending pools).length ≤ (s.pending pools).length := by
  by_cases he : s.status? (pools.status change.job) = some change.expected
  · obtain ⟨held, e⟩ := s.swap_of_eq he ttl now
    rw [e]
    dsimp only
    split
    · exact length_pending_retire (s.setStatus _ _ _) hd _ _ now
    · exact Nat.le_refl _
  · rw [s.swap_of_ne he]

/-- The jobs that a walk admits waited before it and wait no longer. -/
theorem Walk.length_pending {home : String → String} {ttl : Nat} {now : Int}
    {lane lane' : String → Lane} {capacity : Nat} {jobs : List String} {reply : StartReply}
    (h : Walk pools home ttl now s lane capacity jobs reply t lane') (hd : pools.Distinct) :
    reply.admitted.length + (t.pending pools).length ≤ (s.pending pools).length := by
  induction h with
  | full jobs => simp
  | done capacity => simp
  | @stale s t lane lane' room job rest reply _ _ _ _ ih =>
    exact ih.trans (s.length_pending_retire hd _ _ _)
  | @enter s t lane lane' room job rest reply hf hj _ _ ih =>
    obtain ⟨hrun, hwait⟩ := Lane.ready_eq_some.1 hj
    have hjob : job ∈ s.pending pools := by
      rw [mem_pending, hf.owner, hf.active, if_pos (Lane.mem_jobs.2 (.inr hwait)), hrun]
      exact ⟨rfl, (Option.some_ne_none job).symm⟩
    have hgone : job ∉ (s.admitted pools job ttl now).pending pools := by
      rw [mem_pending]
      simp [admitted]
    have hlt := length_pending_lt hjob hgone fun j hm => ?_
    · simp only [List.length_cons]
      omega
    · obtain ⟨hf', ha'⟩ := mem_pending.1 hm
      refine mem_pending.2 ⟨hf', fun h => ha' ?_⟩
      simp [admitted, hd.ready_ne_active.symm, h]

theorem Follows.length_pending_start {home : String → String} {lane : String → Lane}
    (hf : s.Follows pools home lane) (hd : pools.Distinct) (limit ttl : Nat) (now : Int) :
    (s.start pools limit ttl now).1.admitted.length +
      ((s.start pools limit ttl now).2.pending pools).length ≤ (s.pending pools).length := by
  obtain ⟨lane', hw⟩ := hf.walk_start hd limit ttl now
  exact hw.length_pending hd

end InProcess

/-! ## Weights -/

/-- The weight of the events that wait. -/
def Mailbox.weight (c : Nat) (m : Mailbox) : Nat :=
  (m.transitions.map (Transition.weight c)).sum + 2 * m.outcomes.length

theorem Mailbox.weight_of_take? {c : Nat} {m m' : Mailbox} {e : Event}
    (h : m.take? = some (e, m')) : m.weight c = m'.weight c + e.weight c := by
  unfold weight
  rcases take?_eq_some h with ⟨t, rfl, ht, hr⟩ | ⟨r, rfl, ht, hr⟩
  · rw [ht, hr, List.map_cons, List.sum_cons, Event.weight]
    omega
  · rw [ht, hr, List.length_cons, Event.weight]
    omega

theorem Event.weight_pos (c : Nat) (e : Event) : 0 < e.weight c := by
  cases e with
  | transition t =>
    rw [weight, Transition.weight]
    split
    · omega
    · split <;> omega
  | outcome r => exact Nat.two_pos

/-- The transitions of admitted jobs weigh what the jobs weighed when they waited. -/
theorem Ledger.weight_starts_le (c : Nat) (jobs : List String) :
    ((starts jobs).map (Transition.weight c)).sum ≤ (2 * c + 2) * jobs.length := by
  induction jobs with
  | nil => exact Nat.le_refl _
  | cons raw rest ih =>
    rw [List.length_cons, Nat.mul_succ]
    cases hp : JobKey.parse raw with
    | error e =>
      have hskip : starts (raw :: rest) = starts rest := List.filterMap_cons_none (by rw [hp])
      rw [hskip]
      omega
    | ok key =>
      have hpost : starts (raw :: rest) =
          ⟨key, .starting, some .queued, false⟩ :: starts rest :=
        List.filterMap_cons_some (by rw [hp])
      have hweight : Transition.weight c ⟨key, .starting, some .queued, false⟩ = 2 * c + 2 := rfl
      rw [hpost, List.map_cons, List.sum_cons, hweight]
      omega

namespace Orchestrator

variable {σ : Type} {o : Orchestrator} {react : σ → interface.Request → Moment × σ} {c : Nat}
  {s t : Site σ} {n m : ℕ∞}

/-- How many reports a request may bring about. -/
def echo (c : Nat) : interface.Request → Nat
  | .inr (.call call) => call.echo c
  | _ => 0

/-- The executor reports `c` times at most for each call, and nobody reports otherwise. -/
def Measured (c : Nat) (react : σ → interface.Request → Moment × σ) : Prop :=
  ∀ around r, (react around r).1.reports.length ≤ echo c r

namespace Site

def weight (o : Orchestrator) (c : Nat) (s : Site σ) : Nat :=
  (2 * c + 2) * (s.store.pending o.ledger.layout.pools).length + s.mailbox.weight c

/-- The site is not heavier than `n`. -/
structure Light (o : Orchestrator) (c : Nat) (n : ℕ∞) (s : Site σ) : Prop where
  lanes : s.OnLanes o.ledger.layout
  weight : (s.weight o c : ℕ∞) ≤ n

theorem Light.mono (h : s.Light o c n) (hnm : n ≤ m) : s.Light o c m :=
  ⟨h.lanes, h.weight.trans hnm⟩

theorem weight_owe (s : Site σ) (ts : List Transition) :
    (s.owe ts).weight o c = s.weight o c + (ts.map (Transition.weight c)).sum := by
  simp only [weight, owe, Mailbox.weight, List.map_append, List.sum_append]
  omega

theorem weight_pass (hreact : Measured c react) (r : interface.Request) (s : Site σ) :
    (s.pass react r).weight o c ≤ s.weight o c + 2 * echo c r := by
  have hreports := hreact s.around r
  have hpass : (s.pass react r).weight o c =
      s.weight o c + 2 * (react s.around r).1.reports.length := by
    simp only [weight, pass, after, Mailbox.weight, List.length_append]
    show (2 * c + 2) * (s.store.pending o.ledger.layout.pools).length + _ = _
    omega
  omega

/-- A moment may bring reports. -/
theorem Light.pass (h : s.Light o c n) (hreact : Measured c react) (r : interface.Request) :
    (s.pass react r).Light o c (n + (2 * echo c r : ℕ)) where
  lanes := h.lanes.pass _ _
  weight := by
    refine le_trans (Nat.cast_le.2 (weight_pass hreact r s)) ?_
    rw [Nat.cast_add]
    exact add_le_add_left h.weight _

theorem light_patient (hreact : Measured c react) : Patient react (Light o c n) := by
  intro r s hs
  refine (hs.pass hreact (.inl r)).mono ?_
  exact (add_zero n).le

/-- A change of state adds the transition that tells of it. -/
theorem Light.swap (hs : s.Light o c n) (key : JobKey) (current state : QueueState)
    (superseded : Bool) (now : Int) :
    let done := s.store.swap o.ledger.layout.pools (o.ledger.swapOf key current state)
      o.ledger.ttl now
    ({ s with store := done.2 }.owe [⟨key, state, some current, superseded⟩]).Light o c
      (n + (Transition.weight c ⟨key, state, some current, superseded⟩ : ℕ)) := by
  intro done
  constructor
  case lanes =>
    exact hs.lanes.perform (c := .swap o.ledger.layout.pools
      (o.ledger.swapOf key current state) o.ledger.ttl)
      ⟨rfl, (o.ledger.layout.home_text key).symm⟩ now
  case weight =>
    have hpending := s.store.length_pending_swap o.ledger.layout.pools_distinct
      (o.ledger.swapOf key current state) o.ledger.ttl now
    have hle : ({ s with store := done.2 } : Site σ).weight o c ≤ s.weight o c :=
      Nat.add_le_add_right (Nat.mul_le_mul_left _ hpending) _
    rw [weight_owe, List.map_singleton, List.sum_singleton, Nat.cast_add]
    exact add_le_add_left ((Nat.cast_le.2 hle).trans hs.weight) _

/-- A start adds nothing. -/
theorem Light.start (hs : s.Light o c n) (limit : Nat) (now : Int) :
    let done := s.store.start o.ledger.layout.pools limit o.ledger.ttl now
    ({ s with store := done.2 }.owe (Ledger.starts done.1.admitted)).Light o c n := by
  intro done
  constructor
  case lanes => exact hs.lanes.perform (c := .start _ _ _) rfl now
  case weight =>
    obtain ⟨lane, hf⟩ := hs.lanes
    have hpending : done.1.admitted.length + (done.2.pending o.ledger.layout.pools).length ≤
        (s.store.pending o.ledger.layout.pools).length :=
      hf.length_pending_start o.ledger.layout.pools_distinct limit o.ledger.ttl now
    have hstarts := Ledger.weight_starts_le c done.1.admitted
    have hmul := Nat.mul_le_mul_left (2 * c + 2) hpending
    rw [Nat.mul_add] at hmul
    refine le_trans (Nat.cast_le.2 ?_) hs.weight
    rw [weight_owe]
    unfold Site.weight
    show (2 * c + 2) * (done.2.pending o.ledger.layout.pools).length + s.mailbox.weight c + _ ≤ _
    omega

/-! ## Acts and handlers -/

theorem push_light (hreact : Measured c react) (key : JobKey) :
    (o.ledger.push key).Leads (serveLedger react) (Light o c ⊤) fun _ => Light o c ⊤ := by
  refine push_leads (light_patient hreact) (fun s now hs _ => ⟨?_, le_top⟩)
    fun other state s now current hs _ => (hs.swap other current state true now).mono le_top
  exact hs.lanes.perform (c := .push (o.ledger.layout.queue key) o.ledger.layout.pools key.text
    key.canonicalId o.ledger.ttl) ⟨rfl, (o.ledger.layout.home_text key).symm⟩ now

/-- An act adds its price at most. -/
theorem act_light (hreact : Measured c react) (a : Act) (n : ℕ∞) :
    (a.program o).Leads (serve react) (Light o c n) fun _ => Light o c (n + a.price c) := by
  have hpatient : ∀ m : ℕ∞, Patient react (Light o c m) := fun _ => light_patient hreact
  cases a with
  | status key =>
    refine .inl ((status_leads (hpatient n) key).weaken (fun _ hs => hs) fun _ _ hs => ?_)
    exact hs.mono (add_zero n).ge
  | record key state hne =>
    refine .inl (apply_leads (hpatient n) (hpatient _) (fun _ hs => hs.mono le_self_add)
      fun s now current hs _ => ?_)
    have hweight : Transition.weight c ⟨key, state, some current, false⟩ = 1 := by
      simp [Transition.weight, hne]
    have hswap := hs.swap key current state false now
    rwa [hweight, Nat.cast_one] at hswap
  | push key =>
    refine .inl ((push_light hreact key).weaken (fun _ hs => hs.mono le_top) fun _ _ hs => ?_)
    exact hs.mono (add_top n).ge
  | drain =>
    refine .inl (start_leads (hpatient n) (hpatient _) fun s now hs => ?_)
    exact (hs.start _ now).mono (add_zero n).ge
  | request r =>
    refine .request fun s hs => ?_
    have hpass := hs.pass hreact (.inr r)
    cases r <;> exact hpass

/-- What is made of acts adds their prices at most. -/
theorem light_of_costs (hreact : Measured c react) {α : Type} {k : ℕ∞} {p : Handler α}
    (h : Costs o c k p) (n : ℕ∞) :
    p.Leads (serve react) (Light o c n) fun _ => Light o c (n + k) := by
  induction h generalizing n with
  | done k a => exact .done fun _ hs => hs.mono le_self_add
  | act a _ hk ih =>
    refine .bind (act_light hreact a n) fun x => (ih x _).weaken (fun _ hs => hs) fun _ _ hs => ?_
    refine hs.mono ?_
    rw [add_assoc]
    exact add_le_add_right hk n

/-! ## The worker -/

/-- With each event that is handled the site becomes lighter. -/
theorem weight_handleNext (hreact : Measured c react) (hs : s.OnLanes o.ledger.layout)
    (hn : s.handleNext o react = some t) :
    t.OnLanes o.ledger.layout ∧ t.weight o c < s.weight o c := by
  obtain ⟨⟨e, mailbox⟩, he, rfl⟩ := Option.map_eq_some_iff.1 hn
  have hlight := light_of_costs hreact (handle_costs o c e) _ { s with mailbox } ⟨hs, le_rfl⟩
  refine ⟨hlight.lanes, ?_⟩
  show (run react (o.handle e) { s with mailbox }).weight o c < s.weight o c
  have htake : s.weight o c = ({ s with mailbox } : Site σ).weight o c + e.weight c := by
    simp only [weight, Mailbox.weight_of_take? he]
    omega
  have hpos := e.weight_pos c
  have hle : (run react (o.handle e) { s with mailbox }).weight o c ≤
      ({ s with mailbox } : Site σ).weight o c + (e.weight c - 1) := by
    exact_mod_cast hlight.weight
  omega

/-- The worker handles no more events than the site weighs. -/
theorem exists_settles (hreact : Measured c react) (hs : s.OnLanes o.ledger.layout) :
    ∃ n t, Settles o react s n t ∧ n ≤ s.weight o c := by
  induction hw : s.weight o c using Nat.strongRecOn generalizing s with
  | ind w ih =>
    cases hn : s.handleNext o react with
    | none => exact ⟨0, s, .idle (Option.map_eq_none_iff.1 hn), Nat.zero_le _⟩
    | some t =>
      obtain ⟨ht, hlt⟩ := weight_handleNext (c := c) hreact hs hn
      obtain ⟨n, u, hu, hle⟩ := ih (t.weight o c) (hw ▸ hlt) ht rfl
      exact ⟨n + 1, u, .next hn hu, by omega⟩

end Site

/-- Whatever has been done before, and whatever is in the mailbox, the worker handles a bounded
number of events and stops with an empty mailbox, if each call of the executor brings about a
bounded number of reports. -/
theorem settles (o : Orchestrator) (events : List System.Event) (mailbox : Mailbox) (around : σ)
    (hreact : Measured c react) :
    let s : Site σ := ⟨(({} : System).run o events).store, mailbox, around⟩
    ∃ n t, Site.Settles o react s n t ∧ t.mailbox = {} ∧ n ≤ s.weight o c := by
  intro s
  obtain ⟨lane, hf, -⟩ := Ledger.exists_lane (System.lawful_history o events)
  rw [← (System.sound_run o events).store] at hf
  obtain ⟨n, t, ht, hle⟩ := Site.exists_settles (s := s) hreact ⟨lane, hf⟩
  exact ⟨n, t, ht, Mailbox.take?_eq_none ht.take?_eq_none, hle⟩

/-- Systems that do as they are asked; the executor reports at once that it has started a job. -/
def prompt (_ : Unit) : interface.Request → Moment × Unit
  | .inr (.call (.startJob key)) => ({ answer := obliging, reports := [⟨.started, key⟩] }, ())
  | _ => ({ answer := obliging }, ())

theorem prompt_measured : Measured 1 prompt := by
  intro around r
  rcases r with r | (_ | _ | call | _ | _)
  · exact Nat.zero_le _
  · exact Nat.zero_le _
  · exact Nat.zero_le _
  · cases call <;> first | exact Nat.le_refl _ | exact Nat.zero_le _
  · exact Nat.zero_le _
  · exact Nat.zero_le _

/-- An update was opened, and the worker has not been told yet. -/
def waiting : Site Unit where
  store := (({} : System).run solo (.begin (opened "1") :: steps 0 6)).store
  mailbox := ⟨[⟨Ledger.rival "1", .queued, none, false⟩], []⟩
  around := ()

theorem settles_waiting : (waiting.store.pending solo.ledger.layout.pools).length = 1 ∧
    ∃ n t, Site.Settles solo prompt waiting n t ∧ t.mailbox = {} ∧ n ≤ 5 := by
  have hweight : waiting.weight solo 1 = 5 := by decide +kernel
  obtain ⟨n, t, ht, hempty, hle⟩ :=
    settles solo (.begin (opened "1") :: steps 0 6) waiting.mailbox () prompt_measured
  exact ⟨by decide +kernel, n, t, ht, hempty, hweight ▸ hle⟩

end Orchestrator

end BuildQueue
