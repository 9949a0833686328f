import BuildQueue.Proofs.Ledger.History
import BuildQueue.Proofs.Ledger.Postings
import BuildQueue.Proofs.Store.Retirement

/-!
# Changes of state are atomic

A change of state that no other call comes between takes effect as a whole at one moment, or not at
all (`System.run_addState`). The table decides by the state that the job has then. If it refuses,
the store is as it was and nothing is posted. If it does not, the status of the job is written, the
change is posted, and a state that ends the job takes it out of the store; no other job notices,
but the one that stood behind it. This rests on what the ledger keeps in every store that it is used
with, whichever states jobs are moved to: the store is on lanes, and its statuses are the names of
states (`Grounded`).
-/

namespace BuildQueue.Ledger

/-! ## Stores that the ledger is used with -/

/-- A request that some call of the ledger makes. -/
def Request.Regular (layout : KeyLayout) : Request → Prop
  | .store (.push queue pools job _ _) =>
    pools = layout.pools ∧ ∃ key : JobKey, job = key.text ∧ queue = layout.queue key
  | .store (.start pools _ _) => pools = layout.pools
  | .store (.swap pools change _) =>
    pools = layout.pools ∧ ∃ (l : Ledger) (key : JobKey) (current next : QueueState),
      l.layout = layout ∧ change = l.swapOf key current next
  | .store (.status _) | .store (.pool _ _) | .post _ => True

theorem Request.Regular.respects {layout : KeyLayout} {c : StoreCall}
    (h : (Request.store c).Regular layout) : c.Respects layout.pools layout.home := by
  cases c with
  | push queue pools job label ttl =>
    obtain ⟨rfl, key, rfl, rfl⟩ := h
    exact ⟨rfl, (layout.home_text key).symm⟩
  | start pools max ttl => exact h
  | swap pools change ttl =>
    obtain ⟨rfl, l, key, current, next, rfl, rfl⟩ := h
    exact ⟨rfl, (l.layout.home_text key).symm⟩
  | status name => trivial
  | pool pools which => trivial

theorem Request.Lawful.regular {layout : KeyLayout} {limit : Nat} {r : Request}
    (h : r.Lawful layout limit) : r.Regular layout := by
  cases r with
  | post t => trivial
  | store c =>
    cases c with
    | push queue pools job label ttl => exact h
    | start pools max ttl => exact h.1
    | swap pools change ttl =>
      obtain ⟨hp, l, key, current, next, hl, hchange, -⟩ := h
      exact ⟨hp, l, key, current, next, hl, hchange⟩
    | status name => trivial
    | pool pools which => trivial

theorem Operation.regular (l : Ledger) (op : Operation) :
    (op.program l).Asks (Request.Regular l.layout) := by
  have hswap : ∀ key current state, (Request.store (.swap l.layout.pools
      (l.swapOf key current state) l.ttl)).Regular l.layout :=
    fun key current state => ⟨rfl, l, key, current, state, rfl, rfl⟩
  have hstart : ∀ max, (Request.store (.start l.layout.pools max l.ttl)).Regular l.layout :=
    fun _ => rfl
  cases op with
  | push key =>
    exact (push_asks (fun _ => trivial) hswap (fun _ => trivial) ⟨rfl, key, rfl, rfl⟩).bind
      fun _ => .pure _
  | start max => exact (start_asks (fun _ => trivial) (hstart max)).bind fun _ => .pure _
  | addState key state =>
    exact (apply_asks (fun _ => trivial) hswap (fun _ => trivial) key state false).bind
      fun _ => .pure _

/-- The store is on lanes, and its statuses are the names of states. -/
structure Grounded (layout : KeyLayout) (s : InProcess) : Prop where
  lanes : ∃ lane, s.Follows layout.pools layout.home lane
  named : ∀ job entry, s.statuses[layout.pools.status job]? = some entry →
    ∃ state : QueueState, entry.1 = state.name

namespace Grounded

variable {layout : KeyLayout} {s : InProcess}

theorem empty : Grounded layout {} := ⟨⟨_, .empty⟩, fun job entry h => by simp at h⟩

theorem advance (h : Grounded layout s) (ms : Nat) : Grounded layout (s.advance ms) := by
  obtain ⟨lane, hf⟩ := h.lanes
  exact ⟨⟨lane, hf.advance ms⟩, h.named⟩

/-- The live status of a job as a state. -/
theorem exists_state (h : Grounded layout s) (job : String) : ∃ state : Option QueueState,
    s.status? (layout.pools.status job) = state.map QueueState.name := by
  cases hs : s.status? (layout.pools.status job) with
  | none => exact ⟨none, rfl⟩
  | some raw =>
    obtain ⟨entry, he, rfl⟩ := Option.map_eq_some_iff.1 (InProcess.text_of_status? hs)
    obtain ⟨state, hstate⟩ := h.named job entry he
    exact ⟨some state, congrArg some hstate⟩

theorem perform (h : Grounded layout s) {c : StoreCall} (hc : (Request.store c).Regular layout)
    (now : Int) : Grounded layout (s.perform now c).2 := by
  obtain ⟨lane, hf⟩ := h.lanes
  refine ⟨hf.perform layout.pools_distinct hc.respects now, fun job entry he => ?_⟩
  have hwritten := s.statuses_apply (.call c now) (layout.pools.status job)
  cases hw : s.write? (.call c now) (layout.pools.status job) with
  | none =>
    rw [hw] at hwritten
    exact h.named job entry (hwritten.symm.trans he)
  | some w =>
    rw [hw] at hwritten
    obtain rfl := Option.some.inj (hwritten.symm.trans he)
    cases w with
    | queued => exact ⟨.queued, rfl⟩
    | admitted => exact ⟨.starting, rfl⟩
    | swapped expected next =>
      cases c with
      | swap pools change ttl =>
        obtain ⟨rfl, l, key, current, state, rfl, rfl⟩ := hc
        obtain ⟨hsame, -, -⟩ := s.write?_swap.1 hw
        cases hsame
        exact ⟨state, rfl⟩
      | push => cases (s.write?_push.1 hw).1
      | start =>
        rw [InProcess.write?] at hw
        split at hw <;> cases hw
      | status => cases hw
      | pool => cases hw

theorem run {events : List StoreEvent} (h : ∀ e ∈ events, LawfulEvent layout e) :
    Grounded layout (({} : InProcess).run events) := by
  induction events using List.reverseRecOn with
  | nil => exact .empty
  | append_singleton events e ih =>
    have hg := ih fun e' he' => h e' (List.mem_append_left _ he')
    have he := h e (by simp)
    rw [InProcess.run_concat]
    cases e with
    | call c now =>
      obtain ⟨limit, hc⟩ := he
      exact hg.perform hc.regular now
    | complete queue pools job now => cases he
    | advance ms => exact hg.advance ms

end Grounded

namespace System

variable {Client : Type} [DecidableEq Client] {layout : KeyLayout}

/-- The store is grounded, and so will be what the clients still ask for. -/
structure Settled (layout : KeyLayout) (s : System Client) : Prop where
  grounded : Grounded layout s.store
  regular : ∀ client, (s.running client).Asks (Request.Regular layout)

theorem Settled.next {s : System Client} (h : s.Settled layout) (e : Event Client) :
    (s.next layout e).Settled layout := by
  obtain ⟨hg, ha⟩ := h
  have hrun : ∀ client p, p.Asks (Request.Regular layout) →
      ∀ c, (Function.update s.running client p c).Asks (Request.Regular layout) := by
    intro client p hp
    rw [Function.forall_update_iff s.running fun _ p => p.Asks (Request.Regular layout)]
    exact ⟨hp, fun c _ => ha c⟩
  cases e with
  | call client ttl op =>
    unfold System.next
    dsimp only
    split
    · exact ⟨hg, hrun client _ (op.regular ⟨layout, ttl⟩)⟩
    · exact ⟨hg, ha⟩
  | step client now =>
    cases hc : s.running client with
    | done _ =>
      simp only [System.next, hc]
      exact ⟨hg, ha⟩
    | ask r rest =>
      have hr := ha client
      rw [hc] at hr
      rw [next_step layout hc]
      cases r with
      | store c => exact ⟨hg.perform hr.1 now, hrun client _ (hr.2 _)⟩
      | post t => exact ⟨hg, hrun client _ (hr.2 _)⟩
  | advance ms => exact ⟨hg.advance ms, ha⟩

theorem settled_run (layout : KeyLayout) (events : List (Event Client)) :
    (({} : System Client).run layout events).Settled layout :=
  run_induction ⟨.empty, fun _ => trivial⟩ fun _ e _ h => h.next e

end System

/-! ## One change of state -/

/-- What a change of a job's state has done to a store, at the time `now` of who made it. -/
structure Transformed (l : Ledger) (key : JobKey) (state : QueueState) (now : Int)
    (s t : InProcess) : Prop where
  /-- The status of the job has a new deadline. -/
  entry : t.statuses[l.layout.status key]? = some (state.name, s.clock + l.ttl)
  statuses : ∀ name, name ≠ l.layout.status key → t.statuses[name]? = s.statuses[name]?
  /-- A state that does not end the job leaves everything else alone. -/
  stays : state.isTerminal = false → t.queues = s.queues ∧ t.pools = s.pools ∧ t.tables = s.tables
  leaves : state.isTerminal = true →
    s.Retired t l.layout.pools (l.layout.queue key) key.text now
  clock_le : s.clock ≤ t.clock

/-- A change of a job's state, answered with `result` and with the store `t`, is as if it had been
made at one go on the store `s`, where the state of the job was `found`. What has been posted goes
from `before` to `after`. -/
structure AtOnce (l : Ledger) (key : JobKey) (state : QueueState) (superseded : Bool) (now : Int)
    (s t : InProcess) (found : Option QueueState) (before after : List Transition)
    (result : Result Transition) : Prop where
  live : s.status? (l.layout.status key) = found.map QueueState.name
  ok_iff : (∃ t, result = .ok t) ↔ ∃ current ∈ found, current.canBecome state = true
  error : ∀ e, result = .error e →
    e = .illegalTransition key.text found state ∧ t = s ∧ after = before
  ok : ∀ posted, result = .ok posted → posted = ⟨key, state, found, superseded⟩ ∧
    after = before ++ [posted] ∧ Transformed l key state now s t

section Change

variable {l : Ledger} {key : JobKey} {state : QueueState} {superseded : Bool} {now : Int}
  {s t : InProcess} {before after : List Transition}

theorem Transformed.advance (h : Transformed l key state now s t) (ms : Nat) :
    Transformed l key state now s (t.advance ms) :=
  ⟨h.entry, h.statuses, h.stays, fun hs => (h.leaves hs).advance ms,
    h.clock_le.trans (Nat.le_add_right _ _)⟩

/-- The swap of a change that the table allows. -/
theorem transformed_swap {lane : String → Lane} (hf : s.Follows l.layout.pools l.layout.home lane)
    {current : QueueState} (hs : s.status? (l.layout.status key) = some current.name)
    (state : QueueState) (now : Int) :
    ∃ held, (s.swap l.layout.pools (l.swapOf key current state) l.ttl now).1 = .applied held ∧
      Transformed l key state now s
        (s.swap l.layout.pools (l.swapOf key current state) l.ttl now).2 := by
  obtain ⟨held, e⟩ := @InProcess.swap_of_eq s l.layout.pools (l.swapOf key current state) hs
    l.ttl now
  rw [e]
  refine ⟨held, rfl, ?_⟩
  have hset := s.statuses_setStatus (l.layout.status key) state.name l.ttl
  cases hterm : state.isTerminal with
  | false =>
    have hstay : ¬ (l.swapOf key current state).retire = true := by
      show ¬ state.isTerminal = true
      rw [hterm]
      exact Bool.false_ne_true
    dsimp only
    rw [if_neg hstay]
    refine ⟨(hset _).trans (if_pos rfl), fun name hn => (hset name).trans (if_neg hn),
      fun _ => ⟨rfl, rfl, rfl⟩, fun h => ?_, Nat.le_refl _⟩
    rw [hterm] at h
    cases h
  | true =>
    have hretire : (l.swapOf key current state).retire = true := hterm
    have hhome : (l.swapOf key current state).queue = l.layout.home key.text :=
      (l.layout.home_text key).symm
    dsimp only
    rw [if_pos hretire, hhome]
    have hr := (hf.setStatus (l.layout.status key) state.name l.ttl).retired
      l.layout.pools_distinct key.text now
    refine ⟨?_, fun name hn => ?_, fun h => ?_, fun _ => ?_, ?_⟩
    · rw [InProcess.statuses_retire]
      exact (hset _).trans (if_pos rfl)
    · rw [InProcess.statuses_retire]
      exact (hset name).trans (if_neg hn)
    · rw [hterm] at h
      cases h
    · rw [← l.layout.home_text]
      exact hr.of_setStatus
    · rw [InProcess.clock_retire]
      exact Nat.le_refl _

/-- The swap of a status that has expired. -/
theorem swap_expired (hs : s.status? (l.layout.status key) = none) (current : QueueState) :
    s.swap l.layout.pools (l.swapOf key current state) l.ttl now = (.rejected none, s) := by
  have hne : s.status? (l.layout.pools.status (l.swapOf key current state).job) ≠
      some current.name := fun e => by
    have := hs.symm.trans e
    cases this
  exact (s.swap_of_ne hne l.ttl now).trans (congrArg (fun raw => (SwapReply.rejected raw, s)) hs)

/-- A change that the table refuses leaves everything as it was. -/
theorem AtOnce.refused {found : Option QueueState}
    (hlive : s.status? (l.layout.status key) = found.map QueueState.name)
    (hno : ∀ current ∈ found, ¬ current.canBecome state = true) (hstore : t = s)
    (hposted : after = before) :
    AtOnce l key state superseded now s t found before after
      (.error (.illegalTransition key.text found state)) where
  live := hlive
  ok_iff := by
    constructor
    · rintro ⟨t, ht⟩
      cases ht
    · rintro ⟨current, hc, hcan⟩
      exact absurd hcan (hno current hc)
  error e he := ⟨(Except.error.inj he).symm, hstore, hposted⟩
  ok t ht := by cases ht

theorem AtOnce.accepted {current : QueueState}
    (hlive : s.status? (l.layout.status key) = some current.name)
    (hcan : current.canBecome state = true)
    (hposted : after = before ++ [⟨key, state, some current, superseded⟩])
    (ht : Transformed l key state now s t) :
    AtOnce l key state superseded now s t (some current) before after
      (.ok ⟨key, state, some current, superseded⟩) where
  live := hlive
  ok_iff := iff_of_true ⟨_, rfl⟩ ⟨current, rfl, hcan⟩
  error e he := by cases he
  ok posted he := by
    obtain rfl := Except.ok.inj he
    exact ⟨rfl, hposted, ht⟩

end Change

/-! ## Whoever serves the ledger -/

/-- Surroundings with a store, where transitions are posted: each request is answered when some time
has passed. -/
structure Hosts {σ : Type} (serve : (r : Request) → σ → Reply r × σ) (store : σ → InProcess)
    (posted : σ → List Transition) : Prop where
  ask : ∀ c w, ∃ (ms : Nat) (now : Int),
    (serve (.store c) w).1 = .ok (((store w).advance ms).perform now c).1 ∧
    store (serve (.store c) w).2 = (((store w).advance ms).perform now c).2 ∧
    posted (serve (.store c) w).2 = posted w
  post : ∀ t w, ∃ ms : Nat, store (serve (.post t) w).2 = (store w).advance ms ∧
    posted (serve (.post t) w).2 = posted w ++ [t]

section Host

variable {σ : Type} {serve : (r : Request) → σ → Reply r × σ} {store : σ → InProcess}
  {posted : σ → List Transition} {l : Ledger}

/-- The state of a job, read when some time has passed. -/
theorem Hosts.run_status (h : Hosts serve store posted) (key : JobKey) (w : σ) : ∃ ms : Nat,
    ((l.status key).run serve w).1 =
        readState (((store w).advance ms).status? (l.layout.status key)) ∧
      store ((l.status key).run serve w).2 = (store w).advance ms ∧
      posted ((l.status key).run serve w).2 = posted w := by
  obtain ⟨ms, now, hanswer, hstore, hposted⟩ := h.ask (.status (l.layout.status key)) w
  rw [status_eq]
  refine ⟨ms, ?_, hstore, hposted⟩
  exact congrArg (fun answer : Result (Option String) => answer.bind readState) hanswer

/-- The store has answered the swap of a status that was live before: it is still live, or it has
expired. -/
theorem Hosts.ask_swap (h : Hosts serve store posted) {w : σ} (hg : Grounded l.layout (store w))
    {key : JobKey} {current : QueueState}
    (hlive : (store w).status? (l.layout.status key) = some current.name) (state : QueueState) :
    let r := serve (.store (.swap l.layout.pools (l.swapOf key current state) l.ttl)) w
    posted r.2 = posted w ∧ ∃ (ms : Nat) (now : Int),
      (((store w).advance ms).status? (l.layout.status key) = some current.name ∧
        (∃ held, r.1 = .ok (.applied held)) ∧
        Transformed l key state now ((store w).advance ms) (store r.2)) ∨
      (((store w).advance ms).status? (l.layout.status key) = none ∧
        r.1 = .ok (.rejected none) ∧ store r.2 = (store w).advance ms) := by
  intro r
  obtain ⟨ms, now, hanswer, hstore, hposted⟩ := h.ask
    (.swap l.layout.pools (l.swapOf key current state) l.ttl) w
  refine ⟨hposted, ms, now, ?_⟩
  cases hs : ((store w).advance ms).status? (l.layout.status key) with
  | none =>
    have e := @swap_expired l key state now _ hs current
    exact .inr ⟨rfl, hanswer.trans (congrArg Except.ok (congrArg Prod.fst e)),
      hstore.trans (congrArg Prod.snd e)⟩
  | some raw =>
    have hsame := InProcess.status?_advance _ hs
    rw [hlive] at hsame
    obtain rfl : raw = current.name := (Option.some.inj hsame).symm
    obtain ⟨lane, hf⟩ := hg.lanes
    obtain ⟨held, ha, ht⟩ := transformed_swap (hf.advance ms) hs state now
    refine .inl ⟨rfl, ⟨held, hanswer.trans (congrArg Except.ok ha)⟩, ?_⟩
    rw [hstore]
    exact ht

/-- Nobody but the time that passes comes between the requests of a change, so the state that the
table has allowed is still there at the swap, unless it has expired. -/
theorem Hosts.run_apply (h : Hosts serve store posted) {w : σ} (hg : Grounded l.layout (store w))
    (key : JobKey) (state : QueueState) (superseded : Bool) :
    let r := (l.apply key state superseded).run serve w
    ∃ (elapsed : Nat) (now : Int) (found : Option QueueState),
      (store w).clock + elapsed ≤ (store r.2).clock ∧
      AtOnce l key state superseded now ((store w).advance elapsed) (store r.2) found (posted w)
        (posted r.2) r.1 := by
  obtain ⟨ms, now, hanswer, hstore, hposted⟩ := h.ask (.status (l.layout.status key)) w
  obtain ⟨found, hfound⟩ := (hg.advance ms).exists_state key.text
  let w₁ := (serve (.store (.status (l.layout.status key))) w).2
  have hstore₁ : store w₁ = (store w).advance ms := hstore
  have hg₁ : Grounded l.layout (store w₁) := hstore₁ ▸ hg.advance ms
  let Q : Result Transition → σ → Prop := fun result x =>
    ∃ (elapsed : Nat) (now : Int) (found : Option QueueState),
      (store w).clock + elapsed ≤ (store x).clock ∧
      AtOnce l key state superseded now ((store w).advance elapsed) (store x) found (posted w)
        (posted x) result
  -- What the table refuses is decided when the state is read.
  have hrefused : (∀ current ∈ found, ¬ current.canBecome state = true) →
      Q (.error (.illegalTransition key.text found state)) w₁ := fun hno =>
    ⟨ms, now, found, Nat.le_of_eq (congrArg InProcess.clock hstore₁).symm,
      .refused hfound hno hstore₁ hposted⟩
  suffices hQ : (l.apply key state superseded).Leads serve (· = w) Q from hQ w rfl
  rw [apply_eq]
  refine .ask (M := fun answer x => answer = .ok (found.map QueueState.name) ∧ x = w₁) ?_
    fun answer => .of_and fun e => ?_
  · rintro x rfl
    exact ⟨hanswer.trans (congrArg Except.ok hfound), rfl⟩
  subst e
  dsimp only
  rw [readState_map_name]
  cases found with
  | none =>
    rintro x rfl
    exact hrefused fun current hc => by cases hc
  | some current =>
    dsimp only
    split
    · next hcan =>
      have hlive₁ : (store w₁).status? (l.layout.status key) = some current.name := by
        rw [hstore₁]
        exact hfound
      obtain ⟨hposted₂, ms₂, now₂, hswap⟩ := h.ask_swap hg₁ hlive₁ state
      rw [hstore₁, InProcess.advance_advance] at hswap
      let w₂ := (serve (.store (.swap l.layout.pools (l.swapOf key current state) l.ttl)) w₁).2
      rcases hswap with ⟨hlive₂, ⟨held, happlied⟩, ht⟩ | ⟨hgone, hrejected, hstore₂⟩
      · refine .ask (M := fun answer x => answer = .ok (.applied held) ∧ x = w₂) ?_
          fun answer => .of_and fun e => ?_
        · rintro x rfl
          exact ⟨happlied, rfl⟩
        subst e
        rintro x rfl
        obtain ⟨ms₃, hstore₃, hposted₃⟩ := h.post ⟨key, state, some current, superseded⟩ w₂
        have ht₃ := ht.advance ms₃
        rw [← hstore₃] at ht₃
        refine ⟨ms + ms₂, now₂, some current, ht₃.clock_le, .accepted hlive₂ hcan ?_ ht₃⟩
        exact hposted₃.trans (congrArg (· ++ [_]) (hposted₂.trans hposted))
      · refine .ask (M := fun answer x => answer = .ok (.rejected none) ∧ x = w₂) ?_
          fun answer => .of_and fun e => ?_
        · rintro x rfl
          exact ⟨hrejected, rfl⟩
        subst e
        rintro x rfl
        exact ⟨ms + ms₂, now₂, none, Nat.le_of_eq (congrArg InProcess.clock hstore₂).symm,
          .refused hgone (fun other ho => by cases ho) hstore₂ (hposted₂.trans hposted)⟩
    · next hcan =>
      rintro x rfl
      refine hrefused fun other ho => ?_
      obtain rfl := Option.some.inj ho
      exact hcan

end Host

/-! ## Clients -/

/-- Books keep a store and what has been posted. -/
theorem Books.hosts (clocks : Clocks) (supersedes : StatusChange → Bool) :
    Hosts (Books.serve clocks supersedes) Books.store Books.posted where
  ask _ b := ⟨clocks.lapse b.asked, b.now clocks, rfl, rfl, rfl⟩
  post _ b := ⟨clocks.lapse b.asked, rfl, rfl⟩

/-- Whatever clients have done before, whichever states jobs were moved to, and however much time
passes, a change of state that no other call comes between is made at one go. -/
theorem System.run_addState {Client : Type} [DecidableEq Client] (layout : KeyLayout)
    (events : List (Event Client)) (clocks : Clocks) (ttl : Nat) (key : JobKey)
    (state : QueueState) :
    let b : Books := { surroundings := (({} : System Client).run layout events).surroundings }
    let r := b.call clocks ⟨layout, ttl⟩ (.addState key state)
    ∃ (elapsed : Nat) (now : Int) (found : Option QueueState),
      b.store.clock + elapsed ≤ r.2.store.clock ∧
      AtOnce ⟨layout, ttl⟩ key state false now (b.store.advance elapsed) r.2.store found b.posted
        r.2.posted r.1 := by
  intro b r
  have hg : Grounded layout b.store := (settled_run layout events).grounded
  exact (Books.hosts clocks (Call.addState key state).supersedes).run_apply (l := ⟨layout, ttl⟩) hg
    key state false

end BuildQueue.Ledger
