import BuildQueue.Proofs.Orchestrator.Effects
import BuildQueue.Proofs.Orchestrator.Success
import BuildQueue.Proofs.Store.Origin

/-!
# Events that are delivered twice

An event may be delivered again. The first delivery leaves the store in a state in which the second
finds nothing to do: the job is in its queue, or its status no longer allows the change. A handler
that finds nothing to do leaves no traces (`Quiet`), so an event that is delivered twice leaves the
traces of one that is delivered once (`twice_eq_once`).
-/

namespace BuildQueue

/-- A call that asks for something and changes nothing. -/
def Call.reads : Call → Bool
  | .hasBuildDefinition .. | .nextVersion .. | .branchHead .. | .dependencyGraph .. => true
  | _ => false

/-- A call that has the executor, the publisher or a review system do something. -/
def Call.acts : Call → Bool
  | .startJob _ | .abortJob _ | .publish _ | .setValidBuild .. | .merge .. | .createTag ..
  | .createBranch .. => true
  | _ => false

namespace Orchestrator

variable {σ : Type}

/-- Surroundings that remember what they have been asked. -/
def recorded (react : σ → interface.Request → Moment × σ) (w : σ × List interface.Request)
    (r : interface.Request) : Moment × (σ × List interface.Request) :=
  ((react w.1 r).1, (react w.1 r).2, w.2 ++ [r])

/-- Surroundings in which no time passes, and which answer the same question always alike. -/
structure Steady (react : σ → interface.Request → Moment × σ)
    (reads : (c : Call) → Except DomainError c.Answer) : Prop where
  elapsed : ∀ w r, (react w r).1.elapsed = 0
  answer : ∀ w r c, c.reads = true → (react w r).1.answer c = reads c

/-- The entry that a request makes in the build log. -/
def entry? : interface.Request → Option LogEntry
  | .inr (.log entry) => some entry
  | _ => none

/-- The call that a request makes, if it has something done. -/
def act? : interface.Request → Option Call
  | .inr (.call c) => if c.acts then some c else none
  | _ => none

/-- What the handling of events leaves behind. -/
structure Traces where
  store : InProcess
  transitions : List Transition
  entries : List LogEntry
  calls : List Call

/-- A site that remembers what has been asked. -/
abbrev Watched (σ : Type) : Type := Site (σ × List interface.Request)

def Watched.traces (s : Watched σ) : Traces where
  store := s.store
  transitions := s.mailbox.transitions
  entries := s.around.2.filterMap entry?
  calls := s.around.2.filterMap act?

variable {react : σ → interface.Request → Moment × σ}
  {reads : (c : Call) → Except DomainError c.Answer} {α β : Type}

/-- From a site with the traces `t` the program comes to a result for which `Q` holds, and leaves no
further traces. -/
def Quiet (react : σ → interface.Request → Moment × σ) (t : Traces) (Q : α → Prop)
    (p : Handler α) : Prop :=
  p.Leads (Site.serve (recorded react)) (fun s => Watched.traces s = t)
    fun a s => Q a ∧ Watched.traces s = t

/-- From a store for which `P` holds the program comes to a result and a store for which `Q`
holds. -/
def Reaches (react : σ → interface.Request → Moment × σ) (P : InProcess → Prop) (p : Handler α)
    (Q : α → InProcess → Prop) : Prop :=
  p.Leads (Site.serve (recorded react)) (fun s => P s.store) fun a s => Q a s.store

namespace Quiet

variable {t : Traces} {Q : α → Prop} {R : β → Prop}

theorem pure {a : α} (h : Q a) : Quiet react t Q (Pure.pure a) := .done fun _ hs => ⟨h, hs⟩

theorem bind {p : Handler α} {f : α → Handler β} (hp : Quiet react t Q p)
    (hf : ∀ a, Q a → Quiet react t R (f a)) : Quiet react t R (p >>= f) :=
  Prog.Leads.bind hp fun a => .of_and fun ha => hf a ha

/-- What leaves no traces leaves the store alone. -/
theorem reaches {p : Handler α} {P : InProcess → Prop} (h : ∀ t, Quiet react t Q p) :
    Reaches react P p fun a s => Q a ∧ P s := by
  intro s hs
  obtain ⟨hq, ht⟩ := h (Watched.traces s) s rfl
  have hstore : ((p.run (Site.serve (recorded react)) s).2).store = s.store :=
    congrArg Traces.store ht
  exact ⟨hq, hstore ▸ hs⟩

end Quiet

namespace Reaches

variable {P P' : InProcess → Prop} {Q Q' : α → InProcess → Prop} {R : β → InProcess → Prop}

theorem pure {a : α} (h : ∀ s, P s → Q a s) : Reaches react P (Pure.pure a) Q :=
  .done fun _ hs => h _ hs

theorem bind {p : Handler α} {f : α → Handler β} (hp : Reaches react P p Q)
    (hf : ∀ a, Reaches react (Q a) (f a) R) : Reaches react P (p >>= f) R :=
  Prog.Leads.bind hp hf

theorem weaken {p : Handler α} (h : Reaches react P p Q) (hP : ∀ s, P' s → P s)
    (hQ : ∀ a s, Q a s → Q' a s) : Reaches react P' p Q' :=
  Prog.Leads.weaken h (fun s => hP s.store) fun a s => hQ a s.store

theorem of_and {A : Prop} {p : Handler α} (h : A → Reaches react P p Q) :
    Reaches react (fun s => A ∧ P s) p Q :=
  Prog.Leads.of_and h

end Reaches

section Requests

variable (hst : Steady react reads)
include hst

theorem store_pass (s : Watched σ) (r : interface.Request) :
    (s.pass (recorded react) r).store = s.store := by
  show s.store.advance (react s.around.1 r).1.elapsed = s.store
  rw [hst.elapsed]
  rfl

/-- While a request is answered that counts for nothing, nothing changes that counts. -/
theorem traces_pass {r : interface.Request} (he : entry? r = none) (ha : act? r = none)
    (s : Watched σ) : Watched.traces (s.pass (recorded react) r) = Watched.traces s := by
  have hstore := store_pass hst s r
  have hentries : (s.around.2 ++ [r]).filterMap entry? = s.around.2.filterMap entry? := by
    rw [List.filterMap_append, List.filterMap_cons_none he]
    simp
  have hcalls : (s.around.2 ++ [r]).filterMap act? = s.around.2.filterMap act? := by
    rw [List.filterMap_append, List.filterMap_cons_none ha]
    simp
  simp only [Watched.traces]
  rw [hstore]
  exact congrArg₂ (Traces.mk s.store s.mailbox.transitions) hentries hcalls

theorem quiet_request {t : Traces} {r : Request} (he : entry? (.inr r : interface.Request) = none)
    (ha : act? (.inr r : interface.Request) = none) :
    Quiet react t (fun _ => True) (.ask (I := interface) (.inr r) .done) := by
  refine .request fun s hs => ⟨trivial, ?_⟩
  refine Eq.trans ?_ ((traces_pass hst he ha s).trans hs)
  cases r <;> rfl

/-- A question has its one answer. -/
theorem quiet_read {t : Traces} {c : Call} (hc : c.reads = true) :
    Quiet react t (· = reads c) (call c) := by
  have ha : act? (.inr (.call c) : interface.Request) = none := by
    cases c <;> first | rfl | cases hc
  refine .request fun s hs => ⟨hst.answer _ _ c hc, ?_⟩
  exact (traces_pass hst rfl ha s).trans hs

theorem quiet_acquire {t : Traces} (key : String) : Quiet react t (fun _ => True) (acquire key) :=
  quiet_request hst rfl rfl

theorem quiet_release {t : Traces} : Quiet react t (fun _ => True) release :=
  quiet_request hst rfl rfl

theorem quiet_inTurn {t : Traces} (key : String) {c : Call}
    {Q : Except DomainError c.Answer → Prop} (hc : Quiet react t Q (call c)) :
    Quiet react t Q (inTurn key c) :=
  (quiet_acquire hst key).bind fun _ _ => hc.bind fun _ hq =>
    (quiet_release hst).bind fun _ _ => .pure hq

/-- Whether a commit is reported to have a build definition. -/
def buildable (reads : (c : Call) → Except DomainError c.Answer) (source : Source)
    (commit : CommitId) : Bool :=
  match reads (.hasBuildDefinition source commit) with
  | .ok found => found
  | .error _ => false

theorem quiet_hasBuildDefinition {t : Traces} (source : Source) (commit : CommitId) :
    Quiet react t (· = buildable reads source commit) (hasBuildDefinition source commit) := by
  refine (quiet_inTurn hst _ (quiet_read hst rfl)).bind fun answer ha => ?_
  subst ha
  unfold buildable
  cases reads (.hasBuildDefinition source commit) with
  | ok found => exact .pure rfl
  | error e => exact .pure rfl

theorem quiet_invalidate {t : Traces} (source : Source) :
    Quiet react t (fun _ => True) (invalidate source) :=
  (quiet_inTurn hst _ (quiet_request hst rfl rfl)).bind fun _ _ =>
    (quiet_inTurn hst _ (quiet_request hst rfl rfl)).bind fun _ _ => .pure trivial

/-- The store is left alone by what asks nothing of the ledger. -/
theorem reaches_staged {P : InProcess → Prop} {lo hi : Nat} {p : Handler α}
    (hp : Staged lo hi p) : Reaches react P p fun _ s => P s := by
  have hserve : ∀ (r : Request) (s : Watched σ), P s.store →
      P (Site.serve (recorded react) (.inr r) s).2.store := by
    intro r s hs
    have hpass : P (s.pass (recorded react) (.inr r)).store := (store_pass hst s _).symm ▸ hs
    cases r <;> exact hpass
  induction p generalizing lo with
  | done a => exact .done fun _ hs => hs
  | ask r next ih =>
    cases r with
    | inl r => exact hp.elim
    | inr r =>
      refine Prog.Leads.ask (M := fun _ s => P s.store) (fun s hs => hserve r s hs) fun x => ?_
      cases r with
      | call c => exact ih x (hp.2 x)
      | acquire key => exact ih x (hp x)
      | release => exact ih x (hp x)
      | log entry => exact ih x (hp x)
      | background c => exact ih x (hp x)

end Requests

/-! ## The ledger when it has nothing to do -/

section Ledger

variable {o : Orchestrator} {t : Traces} {key : JobKey} {state : QueueState}

/-- The status that the store has of the job does not allow the change. -/
def Refuses (o : Orchestrator) (key : JobKey) (state : QueueState) (s : InProcess) : Prop :=
  ∀ current : QueueState, s.status? (o.ledger.layout.status key) = some current.name →
    current.canBecome state = false

variable (hst : Steady react reads)
include hst

/-- A request to the store, at some time of day. -/
theorem serve_store (s : Watched σ) (c : StoreCall) : ∃ now,
    (Site.serveLedger (recorded react) (.store c) s).1 = .ok (s.store.perform now c).1 ∧
      Watched.traces (Site.serveLedger (recorded react) (.store c) s).2 =
        { s.traces with store := (s.store.perform now c).2 } := by
  have hstore := store_pass hst s (.inl (.store c))
  have htraces := traces_pass hst (r := .inl (.store c)) rfl rfl s
  refine ⟨(react s.around.1 (.inl (.store c))).1.now, ?_, ?_⟩
  · exact congrArg (fun store : InProcess => Except.ok (store.perform _ c).1) hstore
  · rw [← htraces, ← hstore]
    rfl

/-- A request to the store that changes nothing. -/
theorem quiet_ask {c : StoreCall} {x : c.Answer}
    (h : ∀ now, t.store.perform now c = (x, t.store)) :
    (Ledger.ask c).Leads (Site.serveLedger (recorded react)) (fun s => Watched.traces s = t)
      fun answer s => answer = .ok x ∧ Watched.traces s = t := by
  refine .request fun s hs => ?_
  obtain ⟨now, hanswer, htraces⟩ := serve_store hst s c
  subst hs
  have hsame := h now
  change s.store.perform now c = (x, s.store) at hsame
  rw [hsame] at hanswer htraces
  exact ⟨hanswer, htraces⟩

theorem quiet_status (key : JobKey) : Quiet react t
    (· = Ledger.readState (t.store.status? (o.ledger.layout.status key)))
    (ofLedger (o.ledger.status key)) := by
  refine Prog.Leads.inl (Prog.Leads.bind (quiet_ask hst fun _ => rfl) fun answer => .of_and ?_)
  rintro rfl
  exact .done fun s hs => ⟨rfl, hs⟩

theorem quiet_addState (h : Refuses o key state t.store) :
    Quiet react t (∃ e, · = .error e) (ofLedger (o.ledger.addState key state)) := by
  refine Prog.Leads.inl ?_
  rw [Ledger.addState, Ledger.apply_eq]
  refine Prog.Leads.bind (quiet_ask hst (c := .status (o.ledger.layout.status key)) fun _ => rfl)
    fun answer => .of_and fun ha => ?_
  subst ha
  dsimp only
  split
  · exact .done fun _ hs => ⟨⟨_, rfl⟩, hs⟩
  · exact .done fun _ hs => ⟨⟨_, rfl⟩, hs⟩
  · next current hr =>
    rw [if_neg (by rw [h current (Ledger.readState_eq_some hr)]; exact Bool.false_ne_true)]
    exact .done fun _ hs => ⟨⟨_, rfl⟩, hs⟩

theorem quiet_record (h : Refuses o key state t.store) :
    Quiet react t (· = false) (o.record key state) := by
  refine (quiet_addState hst h).bind fun r hr => ?_
  obtain ⟨e, rfl⟩ := hr
  exact .pure rfl

/-- A job that is in its queue is not pushed again. -/
theorem quiet_push (h : key.text ∈ t.store.queue (o.ledger.layout.queue key)) :
    Quiet react t (fun r => ∃ size, r = .ok ⟨size, none, none, true⟩)
      (ofLedger (o.ledger.push key)) := by
  refine Prog.Leads.inl (Prog.Leads.bind
    (quiet_ask hst fun now => t.store.push_of_mem _ _ _ now h) fun answer => .of_and ?_)
  rintro rfl
  exact .done fun s hs => ⟨⟨_, rfl⟩, hs⟩

/-! ## The ledger when it has something to do -/

theorem patient (P : InProcess → Prop) :
    Site.Patient (recorded react) fun s => P s.store :=
  fun r s hs => (congrArg P (store_pass hst s (.inl r))).mpr hs

omit hst in
theorem Refuses.of_status? {s : InProcess} {raw : Option String}
    (h : s.status? (o.ledger.layout.status key) = raw)
    (hr : ∀ current, Ledger.readState raw = .ok (some current) →
      current.canBecome state = false) : Refuses o key state s := by
  intro current hc
  refine hr current ?_
  rw [← h, hc, Ledger.readState_name]

omit hst in
theorem not_canBecome_self (state : QueueState) : state.canBecome state = false := by
  cases state <;> rfl

omit hst in
/-- A job that was moved to a state, or whose status has expired, does not go on to that state. -/
theorem refuses_swap {s : InProcess} {current : QueueState}
    (hs : s.status? (o.ledger.layout.status key) = some current.name) (now : Int) :
    (∃ held, (s.swap o.ledger.layout.pools (o.ledger.swapOf key current state) o.ledger.ttl
      now).1 = .applied held) ∧
    Refuses o key state (s.swap o.ledger.layout.pools (o.ledger.swapOf key current state)
      o.ledger.ttl now).2 := by
  obtain ⟨held, e⟩ := @InProcess.swap_of_eq s o.ledger.layout.pools
    (o.ledger.swapOf key current state) hs o.ledger.ttl now
  rw [e]
  refine ⟨⟨held, rfl⟩, fun found hfound => ?_⟩
  have hset : (s.setStatus (o.ledger.layout.status key) state.name o.ledger.ttl).status?
      (o.ledger.layout.status key) = some found.name := by
    dsimp only at hfound
    split at hfound
    · rwa [InProcess.status?_retire] at hfound
    · exact hfound
  obtain rfl := QueueState.name_inj (InProcess.eq_of_status?_setStatus _ hset)
  exact not_canBecome_self found

/-- Whatever state a job was in, it does not go on to a state that it has been moved to. -/
theorem reaches_addState : Reaches react (fun _ => True) (ofLedger (o.ledger.addState key state))
    fun _ s => Refuses o key state s := by
  refine Prog.Leads.inl ?_
  rw [Ledger.addState, Ledger.apply_eq]
  refine Prog.Leads.bind (Site.ask_leads (patient hst fun _ => True)
    (.status (o.ledger.layout.status key)) (M := fun answer s =>
      answer = .ok (s.store.status? (o.ledger.layout.status key))) fun s now _ => rfl)
    fun answer => ?_
  rcases answer with e | raw
  · rintro s ⟨⟩
  have hread : ∀ (s : Watched σ), (.ok raw : Ledger.Result (Option String)) =
      .ok (s.store.status? (o.ledger.layout.status key)) →
      s.store.status? (o.ledger.layout.status key) = raw := fun s hs => (Except.ok.inj hs).symm
  dsimp only
  split
  · next hr => exact .done fun s hs => .of_status? (hread s hs) fun _ h => by rw [hr] at h; cases h
  · next hr => exact .done fun s hs => .of_status? (hread s hs) fun _ h => by rw [hr] at h; cases h
  · next current hr =>
    split
    · have hswap := Site.ask_leads (patient hst fun store =>
        store.status? (o.ledger.layout.status key) = some current.name)
        (.swap o.ledger.layout.pools (o.ledger.swapOf key current state) o.ledger.ttl)
        (M := fun reply s => (∃ held, reply = .ok (.applied held)) ∧ Refuses o key state s.store)
        fun s now hs => by
          obtain ⟨⟨held, hreply⟩, hrefuses⟩ := refuses_swap hs now
          exact ⟨⟨held, congrArg Except.ok hreply⟩, hrefuses⟩
      refine (Prog.Leads.bind hswap fun reply => .of_and fun hreply => ?_).weaken
        (fun s hs => (hread s hs).trans (Ledger.readState_eq_some hr)) fun _ _ h => h
      obtain ⟨held, rfl⟩ := hreply
      exact Prog.Leads.bind (Site.post_leads (patient hst _) _ []) fun _ => .done fun _ hs => hs
    · next hc =>
      refine .done fun s hs => .of_status? (hread s hs) fun found h => ?_
      rw [hr] at h
      cases h
      exact Bool.eq_false_iff.2 hc

omit hst in
/-- The end of another job leaves the job in its queue. -/
theorem mem_queue_swap {s : InProcess} {other : JobKey} (hne : other ≠ key) {queue : String}
    (h : key.text ∈ s.queue queue) (current next : QueueState) (now : Int) :
    key.text ∈ (s.swap o.ledger.layout.pools (o.ledger.swapOf other current next) o.ledger.ttl
      now).2.queue queue := by
  have htext : key.text ≠ other.text := fun e => hne (JobKey.text_inj e).symm
  by_cases hs : s.status? (o.ledger.layout.status other) = some current.name
  · obtain ⟨held, e⟩ := @InProcess.swap_of_eq s o.ledger.layout.pools
      (o.ledger.swapOf other current next) hs o.ledger.ttl now
    rw [e]
    dsimp only
    split
    · rw [InProcess.queue_retire]
      split
      · next hq =>
        subst hq
        exact List.mem_filter.2 ⟨h, decide_eq_true htext⟩
      · exact h
    · exact h
  · rw [@InProcess.swap_of_ne s o.ledger.layout.pools (o.ledger.swapOf other current next) hs]
    exact h

theorem reaches_supersede {job : Option JobKey} (hne : job ≠ some key) (next : QueueState)
    (queue : String) :
    (o.ledger.supersede job next).Leads (Site.serveLedger (recorded react))
      (fun s => key.text ∈ s.store.queue queue) fun _ s => key.text ∈ s.store.queue queue := by
  have hp := patient hst fun store => key.text ∈ store.queue queue
  cases job with
  | none => exact .done fun _ hs => hs
  | some other =>
    refine Prog.Leads.bind (Site.apply_leads hp hp (fun _ hs => hs) ?_) fun _ => .done fun _ h => h
    exact fun s now current hs _ =>
      mem_queue_swap (fun e => hne (congrArg some e)) hs current next now

/-- A job that the store knows by its text. -/
def Written (job : String) : Prop := ∃ key : JobKey, key.text = job

omit hst in
/-- The last one of jobs that do not include the key. -/
theorem exists_last {jobs : List String} (hw : ∀ job ∈ jobs, Written job)
    (hk : key.text ∉ jobs) : ∃ last : Option JobKey,
      jobs.getLast? = last.map JobKey.text ∧ last ≠ some key := by
  cases hlast : jobs.getLast? with
  | none => exact ⟨none, rfl, nofun⟩
  | some job =>
    have hm := List.mem_of_getLast? hlast
    obtain ⟨last, rfl⟩ := hw job hm
    refine ⟨some last, rfl, fun e => hk ?_⟩
    rwa [← Option.some.inj e]

omit hst in
/-- A push has put the job into its queue at once; what it displaces are other jobs. -/
theorem exists_push (key : JobKey) {s : InProcess} (hs : s.Confined o.ledger.layout.pools Written)
    (queue label : String) (ttl : Nat) (now : Int) :
    ∃ (size : Nat) (cancelled aborted : Option JobKey) (duplicate : Bool)
      (previous : Option String),
      (s.push queue o.ledger.layout.pools key.text label ttl now).1 =
        ⟨size, cancelled.map JobKey.text, aborted.map JobKey.text, duplicate, previous⟩ ∧
      cancelled ≠ some key ∧ aborted ≠ some key ∧
      key.text ∈ (s.push queue o.ledger.layout.pools key.text label ttl now).2.queue queue := by
  by_cases hq : key.text ∈ s.queue queue
  · rw [s.push_of_mem _ _ _ _ hq]
    exact ⟨_, none, none, true, none, rfl, nofun, nofun, hq⟩
  have hlast : ∀ test : String → Bool, ∃ last : Option JobKey,
      ((s.queue queue).filter test).getLast? = last.map JobKey.text ∧ last ≠ some key :=
    fun test => exists_last (fun job hj => hs.queued _ job (List.mem_filter.1 hj).1)
      fun h => hq (List.mem_filter.1 h).1
  obtain ⟨cancelled, hc, hcne⟩ : ∃ last : Option JobKey,
    (s.waitingIn queue o.ledger.layout.pools).getLast? = last.map JobKey.text ∧
      last ≠ some key := hlast _
  obtain ⟨aborted, ha, hane⟩ : ∃ last : Option JobKey,
    (s.runningIn queue o.ledger.layout.pools).getLast? = last.map JobKey.text ∧
      last ≠ some key := hlast _
  have hreply := congrArg Prod.fst
    (s.push_of_not_mem o.ledger.layout.pools label ttl now hq)
  rw [hc, ha] at hreply
  refine ⟨_, cancelled, aborted, false, _, hreply, hcne, hane, ?_⟩
  rw [s.queue_push _ _ _ _ hq, if_pos rfl]
  exact List.mem_append_right _ List.mem_cons_self

/-- A job that was pushed is in its queue, whether it was there before or not. -/
theorem reaches_push : Reaches react (InProcess.Confined o.ledger.layout.pools Written)
    (ofLedger (o.ledger.push key))
    fun _ s => key.text ∈ s.queue (o.ledger.layout.queue key) := by
  have hmem := patient hst fun store => key.text ∈ store.queue (o.ledger.layout.queue key)
  have hpush := Site.ask_leads (patient hst (InProcess.Confined o.ledger.layout.pools Written))
    (.push (o.ledger.layout.queue key) o.ledger.layout.pools key.text key.canonicalId o.ledger.ttl)
    (M := fun answer s => (∃ (size : Nat) (cancelled aborted : Option JobKey) (duplicate : Bool)
      (previous : Option String), answer = .ok ⟨size, cancelled.map JobKey.text,
        aborted.map JobKey.text, duplicate, previous⟩ ∧ cancelled ≠ some key ∧
          aborted ≠ some key) ∧ key.text ∈ s.store.queue (o.ledger.layout.queue key))
    fun s now hs => by
      obtain ⟨size, cancelled, aborted, duplicate, previous, hreply, hc, ha, hin⟩ :=
        exists_push key hs (o.ledger.layout.queue key) key.canonicalId o.ledger.ttl now
      exact ⟨⟨size, cancelled, aborted, duplicate, previous, congrArg Except.ok hreply, hc, ha⟩,
        hin⟩
  refine Prog.Leads.inl (Prog.Leads.bind hpush fun answer => .of_and ?_)
  rintro ⟨size, cancelled, aborted, duplicate, previous, rfl, hcancelled, haborted⟩
  dsimp only
  split
  · exact .done fun _ hs => hs
  · refine Prog.Leads.bind (Site.post_leads hmem _ []) fun _ => ?_
    rw [Ledger.displaced_map_text]
    refine Prog.Leads.bind (reaches_supersede hst hcancelled _ _) fun _ => ?_
    exact Prog.Leads.bind (reaches_supersede hst haborted _ _) fun _ => .done fun _ hs => hs

end Ledger

/-! ## The handlers -/

/-- Has a job built if its commit can be. -/
def offer (o : Orchestrator) (key : JobKey) (message : String) :
    Handler (Except SchedulerError Unit) := do
  if ← hasBuildDefinition key.source key.commit then
    match ← ofLedger (o.ledger.push key) with
    | .error e => return .error e
    | .ok outcome =>
      if !outcome.duplicate then log key .info message
      return .ok ()
  else return .ok ()

/-- Records a state, and says so if that was news. -/
def report (o : Orchestrator) (key : JobKey) (state : QueueState) (level : LogLevel)
    (message : String) : Handler Unit := do
  if ← o.record key state then log key level message

/-- The first delivery leads to a state of the store in which a delivery leaves no traces. -/
def Settles (o : Orchestrator) (react : σ → interface.Request → Moment × σ) (p : Handler α) :
    Prop :=
  ∃ D : InProcess → Prop,
    Reaches react (InProcess.Confined o.ledger.layout.pools Written) p (fun _ s => D s) ∧
      ∀ t : Traces, D t.store → Quiet react t (fun _ => True) p

/-- An event that may come twice: an update, a push of a branch, a report or a timeout. -/
def Occasion.Repeatable : Occasion → Prop
  | .update _ _ error => error = none
  | .push _ (.branch _) _ | .outcome _ | .timeout _ => True
  | .push _ (.tag _) _ | .delete _ | .release .. => False

section Handlers

variable {o : Orchestrator} {key : JobKey}

theorem Settles.pure (a : α) : Settles o react (Pure.pure a : Handler α) :=
  ⟨fun _ => True, .pure fun _ _ => trivial, fun _ _ => .pure trivial⟩

theorem Settles.forget {p : Handler α} (h : Settles o react p) :
    Settles o react (p.bind fun _ => .done ()) := by
  obtain ⟨D, hfirst, hsecond⟩ := h
  exact ⟨D, hfirst.bind fun _ => .pure fun _ hs => hs,
    fun t ht => (hsecond t ht).bind fun _ _ => .pure trivial⟩

variable (hst : Steady react reads)
include hst

theorem reaches_log {P : InProcess → Prop} (key : JobKey) (level : LogLevel) (message : String) :
    Reaches react P (log key level message) fun _ s => P s :=
  reaches_staged hst (Staged.log key level message (Nat.le_refl 0))

theorem reaches_record {state : QueueState} : Reaches react (fun _ => True) (o.record key state)
    fun _ s => Refuses o key state s := by
  refine (reaches_addState hst).bind fun r => ?_
  split <;> exact .pure fun _ hs => hs

theorem reaches_status {P : InProcess → Prop} : Reaches react P (ofLedger (o.ledger.status key))
    fun a s => a = Ledger.readState (s.status? (o.ledger.layout.status key)) ∧ P s := by
  intro s hs
  obtain ⟨ha, ht⟩ := quiet_status hst key s rfl
  have hstore : ((ofLedger (o.ledger.status key)).run (Site.serve (recorded react)) s).2.store =
      s.store := congrArg Traces.store ht
  rw [hstore]
  exact ⟨ha, hs⟩

theorem settles_offer (key : JobKey) (message : String) :
    Settles o react (o.offer key message) := by
  refine ⟨fun s => buildable reads key.source key.commit = true →
    key.text ∈ s.queue (o.ledger.layout.queue key), ?_, fun t ht => ?_⟩
  · refine (Quiet.reaches fun t => quiet_hasBuildDefinition hst _ _).bind fun found => .of_and ?_
    rintro rfl
    split
    · refine Reaches.weaken (Q := fun _ s => key.text ∈ s.queue (o.ledger.layout.queue key))
        ((reaches_push hst).bind fun r => ?_) (fun _ hs => hs) fun _ _ hs _ => hs
      split
      · exact .pure fun _ hs => hs
      · split
        · exact (reaches_log hst _ _ _).bind fun _ => .pure fun _ hs => hs
        · exact .pure fun _ hs => hs
    · next hb => exact Reaches.pure fun _ _ h => absurd h hb
  · refine (quiet_hasBuildDefinition hst _ _).bind fun found hf => ?_
    subst hf
    split
    · next hb =>
      refine (quiet_push hst (ht hb)).bind fun r hr => ?_
      obtain ⟨size, rfl⟩ := hr
      exact .pure trivial
    · exact .pure trivial

theorem reaches_report (state : QueueState) (level : LogLevel) (message : String) :
    Reaches react (fun _ => True) (o.report key state level message)
      fun _ s => Refuses o key state s := by
  refine (reaches_record hst).bind fun b => ?_
  split
  · exact reaches_log hst _ _ _
  · exact .pure fun _ hs => hs

theorem quiet_report {t : Traces} {state : QueueState} (h : Refuses o key state t.store)
    (level : LogLevel) (message : String) :
    Quiet react t (fun _ => True) (o.report key state level message) := by
  refine (quiet_record hst h).bind fun b hb => ?_
  subst hb
  exact .pure trivial

theorem settles_report (state : QueueState) (level : LogLevel) (message : String) :
    Settles o react (o.report key state level message) :=
  ⟨Refuses o key state, (reaches_report hst _ _ _).weaken (fun _ _ => trivial) fun _ _ h => h,
    fun _ ht => quiet_report hst ht _ _⟩

/-- A success is taken from a job that is at work only, and that it is no more. -/
theorem settles_success : Settles o react (o.onSuccess key) := by
  refine ⟨Refuses o key .success, ?_, fun t ht => ?_⟩
  · refine (reaches_status hst).bind fun r => ?_
    split
    · refine ((reaches_record hst).bind fun b => ?_).weaken (fun _ _ => trivial) fun _ _ h => h
      split
      · exact (reaches_log hst _ _ _).bind fun _ => reaches_staged hst publish_staged
      · exact .pure fun _ hs => hs
    · next hr =>
      refine .pure fun s ⟨e, _⟩ => .of_status? rfl fun current hcurrent => ?_
      refine Bool.eq_false_iff.2 fun hc => hr ?_
      rw [e, hcurrent, started_of_canBecome_success hc]
  · refine (quiet_status hst _).bind fun r hr => ?_
    split
    · have hstarted := ht .started (Ledger.readState_eq_some hr.symm)
      cases hstarted
    · exact .pure trivial

theorem settles_aborted : Settles o react (o.onAborted key) := by
  refine ⟨Refuses o key .aborted, ?_, fun t ht => ?_⟩
  · refine (reaches_status hst).bind fun r => ?_
    split
    · refine .pure fun s ⟨e, _⟩ => .of_status? rfl fun current hcurrent => ?_
      rw [hcurrent] at e
      cases e
      rfl
    · exact (reaches_report hst .aborted .info "Build aborted.").weaken (fun _ _ => trivial)
        fun _ _ h => h
  · refine (quiet_status hst _).bind fun r hr => ?_
    split
    · exact .pure trivial
    · exact quiet_report hst ht .info "Build aborted."

/-- What leaves no traces may come before. -/
theorem settles_invalidate (source : Source) {p : Handler α} (h : Settles o react p) :
    Settles o react ((invalidate source).bind fun _ => p) := by
  obtain ⟨D, hfirst, hsecond⟩ := h
  refine ⟨D, ?_, fun t ht => (quiet_invalidate hst source).bind fun _ _ => hsecond t ht⟩
  exact (Quiet.reaches fun t => quiet_invalidate hst source).bind fun _ => .of_and fun _ => hfirst

/-- Each of the events settles. -/
theorem Occasion.settles_of_repeatable {x : Occasion} (hx : x.Repeatable) :
    Settles o react (x.program o) := by
  cases x with
  | update u message error =>
    obtain rfl : error = none := hx
    refine Settles.forget ?_
    unfold onUpdate
    split
    · exact .pure _
    · exact settles_offer hst ⟨u.source, .update u.id u.target, u.commit⟩ _
  | push source ref commit =>
    cases ref with
    | tag tag => exact hx.elim
    | branch branch =>
      refine Settles.forget (settles_invalidate hst source ?_)
      show Settles o react (o.onBranchPush source branch commit)
      unfold onBranchPush
      split
      · exact settles_offer hst ⟨source, .branch branch, commit⟩ _
      · exact .pure _
  | delete source => exact hx.elim
  | outcome r =>
    obtain ⟨kind, key⟩ := r
    cases kind with
    | started => exact settles_report hst .started .info "Build started."
    | failure => exact settles_report hst .failure .warning "Build failed."
    | success => exact settles_success hst
    | aborted => exact settles_aborted hst
    | error => exact settles_report hst .error .error "Build errored."
  | timeout key => exact settles_report hst .timeout .warning "Build timed out."
  | release source branch bump => exact hx.elim

end Handlers

/-- In every run, jobs in the store are known by the texts of their keys. -/
theorem confined_run (o : Orchestrator) (events : List System.Event) :
    (({} : System).run o events).store.Confined o.ledger.layout.pools Written := by
  rw [(System.sound_run o events).store]
  refine InProcess.Confined.run o.ledger.layout.home (fun e he => ?_) .empty
  have hlawful := System.lawful_history o events e he
  cases e with
  | call c now =>
    obtain ⟨limit, hc⟩ := hlawful
    refine ⟨hc.respects, ?_⟩
    cases c with
    | push queue pools job label ttl =>
      obtain ⟨-, key, rfl, -⟩ := hc
      exact ⟨key, rfl⟩
    | _ => trivial
  | complete queue pools job now => exact hlawful.elim
  | advance ms => exact ⟨trivial, trivial⟩

/-- An event that is delivered twice in a row leaves behind what it leaves behind when it is
delivered once: the store, what is posted, the entries of the build log, and the calls that have
something done. That is so after every run, whatever the lifetime of statuses is and whatever the
calls that have something done are answered. -/
theorem twice_eq_once {o : Orchestrator} (hst : Steady react reads) {x : Occasion}
    (hx : x.Repeatable) (events : List System.Event) (mailbox : Mailbox) (around : σ) :
    let s : Watched σ := ⟨(({} : System).run o events).store, mailbox, (around, [])⟩
    let once : Watched σ := s.run (recorded react) (x.program o)
    let twice : Watched σ := once.run (recorded react) (x.program o)
    twice.traces = once.traces := by
  intro s once twice
  obtain ⟨D, hfirst, hsecond⟩ := Occasion.settles_of_repeatable (o := o) hst hx
  have honce : D once.store := hfirst s (confined_run o events)
  exact (hsecond once.traces honce once rfl).2

/-- The first delivery of an update queues a job, and the second one does nothing. -/
theorem twice_eq_once_opened :
    let react : Unit → interface.Request → Moment × Unit := fun _ _ => ({ answer := obliging }, ())
    let s : Watched Unit := ⟨(({} : System).run solo []).store, {}, ((), [])⟩
    let once : Watched Unit := s.run (recorded react) ((opened "1").program solo)
    once.traces.transitions = [⟨Ledger.rival "1", .queued, none, false⟩] ∧
      Watched.traces (once.run (recorded react) ((opened "1").program solo)) = once.traces :=
  have hst : Steady (fun (_ : Unit) _ => ({ answer := obliging }, ())) obliging :=
    ⟨fun _ _ => rfl, fun _ _ _ _ => rfl⟩
  ⟨by decide +kernel, twice_eq_once hst (x := opened "1") rfl [] {} ()⟩

end Orchestrator

end BuildQueue
