import BuildQueue.Proofs.Ledger.Paths
import BuildQueue.Proofs.Ledger.Requests
import BuildQueue.Proofs.Store.Changes

/-!
# The postings are the writes

The store writes statuses inside its operations, and the ledger posts them later, from keys that it
reads back and states that it has read before. `Books` keep account of both: what a request adds to
their entries is what it does to the statuses of the store (`Books.Records`). A write that has not
been posted yet is owed (`Account`): an operation of the store makes debts, a posting pays the first
of them, and when a call has come to its end nothing is owed. So what has been posted is, in order,
what has been written (`postings_are_writes`).
-/

namespace BuildQueue

/-- A write of a status, and whether it takes a displaced job out of the way. -/
structure Entry where
  change : StatusChange
  superseding : Bool
  deriving DecidableEq, Repr

/-- The write that a transition tells of. -/
def Transition.entry (t : Transition) : Entry :=
  ⟨⟨t.key.text, t.state.name, t.previous.map QueueState.name⟩, t.superseded⟩

/-- The text that the last entry of a job wrote. -/
def Entry.lastText (entries : List Entry) (job : String) : Option String :=
  (entries.filter (·.change.job = job)).getLast?.map (·.change.text)

theorem Entry.lastText_append (entries : List Entry) (changes : List StatusChange)
    (supersedes : StatusChange → Bool) (job : String) :
    lastText (entries ++ changes.map fun x => ⟨x, supersedes x⟩) job =
      ((changes.filter (·.job = job)).getLast?.map StatusChange.text).or
        (lastText entries job) := by
  have hfilter : (changes.map fun x => Entry.mk x (supersedes x)).filter (·.change.job = job) =
      (changes.filter (·.job = job)).map fun x => ⟨x, supersedes x⟩ := List.filter_map
  rw [lastText, List.filter_append, hfilter, List.getLast?_append, List.getLast?_map]
  cases (changes.filter (·.job = job)).getLast? with
  | none => rfl
  | some x => rfl

namespace Ledger

/-- A call of the ledger. -/
inductive Call where
  | push (key : JobKey)
  | start (max : Nat)
  | addState (key : JobKey) (state : QueueState)
  | status (key : JobKey)
  | pool (which : Pool)
  deriving DecidableEq, Repr

namespace Call

/-- What a call gives back. -/
abbrev Answer : Call → Type
  | push _ => Result PushOutcome
  | start _ => Result (List JobKey)
  | addState .. => Result Transition
  | status _ => Result (Option QueueState)
  | pool _ => Result (List PoolEntry)

def program (l : Ledger) : (c : Call) → Prog interface c.Answer
  | push key => l.push key
  | start max => l.start max
  | addState key state => l.addState key state
  | status key => l.status key
  | pool which => l.pool which

/-- A push takes the jobs that it displaces out of the way when it writes CANCELLED or ABORTED, and
nothing else does. -/
def supersedes : Call → StatusChange → Bool
  | push _, x => x.text = QueueState.cancelled.name || x.text = QueueState.aborted.name
  | _, _ => false

end Call

/-- How time goes by: `lapse n` passes on the clock of the store before the request `n`, between two
calls or within one, and `caller n` is what the caller reads on its own clock then. -/
structure Clocks where
  caller : Nat → Int
  lapse : Nat → Nat

/-- A store and what has been posted, with what has been written to the statuses of the store. -/
structure Books where
  surroundings : Surroundings := {}
  entries : List Entry := []
  /-- The number of requests so far. -/
  asked : Nat := 0

namespace Books

def store (b : Books) : InProcess := b.surroundings.store

def posted (b : Books) : List Transition := b.surroundings.posted

/-- The time before the next request goes by. -/
def pass (clocks : Clocks) (b : Books) : Books :=
  { b with surroundings.store := b.store.advance (clocks.lapse b.asked) }

/-- The time that the caller reads at the next request. -/
def now (clocks : Clocks) (b : Books) : Int := clocks.caller b.asked

/-- The writes that a request makes. -/
def writes (supersedes : StatusChange → Bool) (s : InProcess) (now : Int) : Request → List Entry
  | .store c => (s.changes now c).map fun x => ⟨x, supersedes x⟩
  | .post _ => []

/-- Answers a request, and keeps account of what it writes. -/
def serve (clocks : Clocks) (supersedes : StatusChange → Bool) (r : Request) (b : Books) :
    Reply r × Books :=
  let b := b.pass clocks
  let (x, w) := Ledger.serve (b.now clocks) b.surroundings r
  (x, ⟨w, b.entries ++ writes supersedes b.store (b.now clocks) r, b.asked + 1⟩)

/-- A call runs to its end. -/
def call (clocks : Clocks) (l : Ledger) (c : Call) (b : Books) : c.Answer × Books :=
  (c.program l).run (serve clocks c.supersedes) b

/-- Calls run to their ends one after the other, each with the lifetime that it gives to
statuses. -/
def run (clocks : Clocks) (layout : KeyLayout) (calls : List (Nat × Call)) (b : Books) : Books :=
  calls.foldl (fun b (ttl, c) => (b.call clocks ⟨layout, ttl⟩ c).2) b

/-- The books before a call, and after each of its requests. -/
def course (clocks : Clocks) (l : Ledger) (c : Call) (b : Books) : List Books :=
  b :: ((c.program l).visits (serve clocks c.supersedes) b).map Prod.snd

/-- From one books to the next: what is entered is what has been done to the statuses of the
store. -/
def Records (clocks : Clocks) (l : Ledger) (b b' : Books) : Prop :=
  ∃ new, b'.entries = b.entries ++ new ∧
    InProcess.Written l.layout.pools l.ttl (b.pass clocks).store b'.store (new.map Entry.change)

end Books

/-! ## Each request is on record -/

/-- A request of the ledger: it uses each job with its own queue, and gives a status the lifetime
that the ledger has. -/
def Request.By (l : Ledger) : Request → Prop
  | .store c => c.Respects l.layout.pools l.layout.home ∧ ∀ life ∈ c.lifetime?, life = l.ttl
  | .post _ => True

theorem Books.records_serve {clocks : Clocks} {l : Ledger} {supersedes : StatusChange → Bool}
    {r : Request} (hr : r.By l) (b : Books) :
    b.Records clocks l (b.serve clocks supersedes r).2 := by
  cases r with
  | store c =>
    refine ⟨writes supersedes (b.pass clocks).store (b.now clocks) (.store c), rfl, ?_⟩
    have hsame : (writes supersedes (b.pass clocks).store (b.now clocks)
        (.store c)).map Entry.change = (b.pass clocks).store.changes (b.now clocks) c := by
      rw [writes, List.map_map]
      exact List.map_id _
    rw [hsame]
    exact InProcess.written_perform _ _ hr.1 hr.2
  | post t => exact ⟨[], rfl, .nothing fun _ => rfl⟩

section Asks

variable {l : Ledger} {P : Request → Prop}
  (hread : ∀ key, P (.store (.status (l.layout.status key))))
  (hpush : ∀ key : JobKey, P (.store (.push (l.layout.queue key) l.layout.pools key.text
    key.canonicalId l.ttl)))
  (hstart : ∀ max, P (.store (.start l.layout.pools max l.ttl)))
  (hswap : ∀ key current state,
    P (.store (.swap l.layout.pools (l.swapOf key current state) l.ttl)))
  (hpool : ∀ which, P (.store (.pool l.layout.pools which)))
  (hpost : ∀ t, P (.post t))
include hread hpush hstart hswap hpool hpost

/-- A call asks for nothing else than what calls of the ledger ask for. -/
theorem Call.asks_of (c : Call) : (c.program l).Asks P := by
  cases c with
  | push key => exact push_asks hread hswap hpost (hpush key)
  | start max => exact start_asks hpost (hstart max)
  | addState key state => exact apply_asks hread hswap hpost key state false
  | status key => exact status_asks hread key
  | pool which => exact ⟨hpool which, fun _ => trivial⟩

end Asks

theorem Call.asks_by (l : Ledger) (c : Call) : (c.program l).Asks (Request.By l) := by
  have hlife : ∀ life ∈ some l.ttl, life = l.ttl := fun life h => (Option.some.inj h).symm
  refine c.asks_of (fun key => ⟨trivial, nofun⟩) (fun key => ⟨⟨rfl, ?_⟩, hlife⟩)
    (fun max => ⟨rfl, hlife⟩) (fun key current state => ⟨⟨rfl, ?_⟩, hlife⟩)
    (fun which => ⟨trivial, nofun⟩) fun t => trivial
  · exact (l.layout.home_text key).symm
  · exact (l.layout.home_text key).symm

/-- In the course of a call, each request is on record. -/
theorem Books.isChain_course (clocks : Clocks) (l : Ledger) (c : Call) (b : Books) :
    (b.course clocks l c).IsChain (Records clocks l) :=
  (c.asks_by l).isChain_visits (fun _ b hr => records_serve hr b) b

/-! ## What the store knows -/

/-- The job is the text of one of the keys. -/
def Names (K : JobKey → Prop) (job : String) : Prop := ∃ key, K key ∧ key.text = job

/-- A job that is queued or has a live status is one of the keys, and the live status is the name of
a state. -/
structure Known (layout : KeyLayout) (K : JobKey → Prop) (s : InProcess) : Prop where
  queued : ∀ q, ∀ job ∈ s.queue q, Names K job
  live : ∀ job raw, s.status? (layout.pools.status job) = some raw →
    Names K job ∧ ∃ state : QueueState, state.name = raw

section Names

variable {K : JobKey → Prop}

theorem names_text {key : JobKey} : Names K key.text ↔ K key := by
  constructor
  · rintro ⟨other, hk, e⟩
    rwa [← JobKey.text_inj e]
  · exact fun hk => ⟨key, hk, rfl⟩

theorem exists_keys {jobs : List String} (h : ∀ job ∈ jobs, Names K job) :
    ∃ keys : List JobKey, jobs = keys.map JobKey.text ∧ ∀ k ∈ keys, K k := by
  induction jobs with
  | nil => exact ⟨[], rfl, by simp⟩
  | cons job jobs ih =>
    obtain ⟨hjob, hrest⟩ := List.forall_mem_cons.1 h
    obtain ⟨key, hk, rfl⟩ := hjob
    obtain ⟨keys, rfl, hks⟩ := ih hrest
    exact ⟨key :: keys, rfl, List.forall_mem_cons.2 ⟨hk, hks⟩⟩

end Names

namespace Known

variable {layout : KeyLayout} {K : JobKey → Prop} {s : InProcess}

theorem empty : Known layout K {} where
  queued q job hj := by simp [InProcess.queue] at hj
  live job raw h := by simp [InProcess.status?] at h

theorem advance (h : Known layout K s) (ms : Nat) : Known layout K (s.advance ms) where
  queued := h.queued
  live job raw hr := h.live job raw (InProcess.status?_advance s hr)

/-- The live status of a job as a state. -/
theorem exists_state (h : Known layout K s) (job : String) :
    ∃ state : Option QueueState,
      s.status? (layout.pools.status job) = state.map QueueState.name := by
  cases hs : s.status? (layout.pools.status job) with
  | none => exact ⟨none, rfl⟩
  | some raw =>
    obtain ⟨-, state, rfl⟩ := h.live job raw hs
    exact ⟨some state, rfl⟩

/-- The last one of some jobs of a queue as a key. -/
theorem exists_last (h : Known layout K s) (queue : String) (test : String → Bool) :
    ∃ key : Option JobKey, ((s.queue queue).filter test).getLast? = key.map JobKey.text := by
  refine JobKey.exists_map_text fun job hlast => ?_
  obtain ⟨key, -, hkey⟩ := h.queued queue job (List.mem_filter.1 (List.mem_of_getLast? hlast)).1
  exact ⟨key, hkey⟩

theorem setStatus (h : Known layout K s) {job : String} (hj : Names K job) (state : QueueState)
    (ttl : Nat) : Known layout K (s.setStatus (layout.pools.status job) state.name ttl) where
  queued := h.queued
  live j raw hr := by
    by_cases e : j = job
    · subst e
      exact ⟨hj, state, (InProcess.eq_of_status?_setStatus _ hr).symm⟩
    · rw [s.status?_setStatus_of_ne _ e] at hr
      exact h.live j raw hr

theorem retire (h : Known layout K s) (queue job : String) (now : Int) :
    Known layout K (s.retire queue layout.pools job now).2 where
  queued q j hj := by
    rw [InProcess.queue_retire] at hj
    split at hj
    · exact h.queued _ j (List.mem_filter.1 hj).1
    · exact h.queued q j hj
  live j raw hr := by
    rw [InProcess.status?_retire] at hr
    exact h.live j raw hr

theorem push (h : Known layout K s) {key : JobKey} (hk : K key) {queue : String}
    (hq : key.text ∉ s.queue queue) (label : String) (ttl : Nat) (now : Int) :
    Known layout K (s.push queue layout.pools key.text label ttl now).2 where
  queued q j hj := by
    rw [s.queue_push _ _ _ _ hq] at hj
    split at hj
    · rcases List.mem_append.1 hj with hr | hn
      · exact h.queued queue j (List.mem_filter.1 hr).1
      · rw [List.mem_singleton.1 hn]
        exact names_text.2 hk
    · exact h.queued q j hj
  live j raw hr := by
    rw [s.status?_push _ _ _ _ hq] at hr
    by_cases e : layout.pools.status j = layout.pools.status key.text
    · rw [if_pos e] at hr
      rw [(InProcess.status_inj _).1 e]
      refine ⟨names_text.2 hk, .queued, ?_⟩
      split at hr
      · cases hr
      · exact Option.some.inj hr
    · rw [if_neg e] at hr
      exact h.live j raw hr

theorem walk (layout : KeyLayout) (K : JobKey → Prop) (ttl : Nat) (now : Int) :
    InProcess.WalkInvariant layout.pools layout.home ttl now fun s _ => Known layout K s where
  stale s lane job _ h _ _ := h.retire _ job now
  enter s lane job _ h _ hs := by
    have hmoved : Known layout K
        ((s.leave layout.pools.ready job).join layout.pools.active job now) := ⟨h.queued, h.live⟩
    exact hmoved.setStatus (h.live job _ hs).1 .starting ttl

theorem swap (h : Known layout K s) (l : Ledger) (key : JobKey) (current next : QueueState)
    (ttl : Nat) (now : Int) :
    Known layout K (s.swap layout.pools (l.swapOf key current next) ttl now).2 := by
  by_cases hs : s.status? (layout.pools.status key.text) = some current.name
  · obtain ⟨_, e⟩ := @InProcess.swap_of_eq s layout.pools (l.swapOf key current next) hs ttl now
    have hset := h.setStatus (h.live _ _ hs).1 next ttl
    rw [e]
    dsimp only
    split
    · exact hset.retire _ _ now
    · exact hset
  · rw [@InProcess.swap_of_ne s layout.pools (l.swapOf key current next) hs]
    exact h

end Known

/-! ## What is owed -/

/-- What has been written has been posted, but for the transitions that are still owed. -/
structure Account (layout : KeyLayout) (K : JobKey → Prop) (paid owed : List Transition)
    (b : Books) : Prop where
  lanes : ∃ lane, b.store.Follows layout.pools layout.home lane
  known : Known layout K b.store
  posted : b.posted = paid
  entries : (paid ++ owed).map Transition.entry = b.entries
  /-- What a status was set to, alive or not, is what the last entry of its job says. -/
  last : ∀ job, b.store.statuses[layout.pools.status job]?.map Prod.fst =
    Entry.lastText b.entries job
  keys : ∀ t ∈ paid ++ owed, K t.key

namespace Account

variable {layout : KeyLayout} {K : JobKey → Prop} {paid owed : List Transition} {b : Books}
  {clocks : Clocks} {supersedes : StatusChange → Bool}

theorem empty : Account layout K [] [] {} :=
  ⟨⟨_, .empty⟩, .empty, rfl, rfl, fun _ => rfl, by simp⟩

theorem pass (h : Account layout K paid owed b) (clocks : Clocks) :
    Account layout K paid owed (b.pass clocks) where
  lanes := by
    obtain ⟨lane, hf⟩ := h.lanes
    exact ⟨lane, hf.advance _⟩
  known := h.known.advance _
  posted := h.posted
  entries := h.entries
  last := h.last
  keys := h.keys

/-- A posting pays the first debt. -/
theorem post {t : Transition} (h : Account layout K paid (t :: owed) b) :
    Account layout K (paid ++ [t]) owed (b.serve clocks supersedes (.post t)).2 where
  lanes := (h.pass clocks).lanes
  known := (h.pass clocks).known
  posted := congrArg (· ++ [t]) h.posted
  entries := by
    rw [List.append_assoc, List.singleton_append, h.entries]
    exact (List.append_nil _).symm
  last job := by
    refine (h.last job).trans ?_
    exact congrArg (Entry.lastText · job) (List.append_nil b.entries).symm
  keys := by
    rw [List.append_assoc, List.singleton_append]
    exact h.keys

/-- The store's writes make debts. -/
theorem ask (h : Account layout K paid [] b) {c : StoreCall}
    (hc : c.Respects layout.pools layout.home) {new : List Transition}
    (hnew : new.map Transition.entry =
      Books.writes supersedes (b.pass clocks).store (b.now clocks) (.store c))
    (hkeys : ∀ t ∈ new, K t.key)
    (hknown : Known layout K ((b.pass clocks).store.perform (b.now clocks) c).2) :
    Account layout K paid new (b.serve clocks supersedes (.store c)).2 where
  lanes := by
    obtain ⟨lane, hf⟩ := (h.pass clocks).lanes
    exact hf.perform layout.pools_distinct hc _
  known := hknown
  posted := h.posted
  entries := by
    have hbefore := h.entries
    rw [List.append_nil] at hbefore
    rw [List.map_append, hbefore, hnew]
    rfl
  last job := by
    have hlife : ∀ life ∈ c.lifetime?, life = c.lifetime?.getD 0 := fun life hl => by
      rw [Option.mem_def.1 hl, Option.getD_some]
    have hwritten := InProcess.written_perform (b.pass clocks).store (b.now clocks) hc hlife
    refine (hwritten.text job).trans ?_
    rw [(h.pass clocks).last job, ← Entry.lastText_append]
    rfl
  keys := by
    have hbefore := h.keys
    rw [List.append_nil] at hbefore
    exact List.forall_mem_append.2 ⟨hbefore, hkeys⟩

/-- The account of a single write. -/
theorem writes_single {s : InProcess} {now : Int} {c : StoreCall} {t : Transition}
    (h : s.changes now c = [t.entry.change]) (ht : supersedes t.entry.change = t.superseded) :
    [t].map Transition.entry = Books.writes supersedes s now (.store c) := by
  rw [Books.writes, h, List.map_singleton, List.map_singleton, ht]
  rfl

/-- A request that only reads. -/
theorem read (h : Account layout K paid [] b) {c : StoreCall}
    (hc : c.Respects layout.pools layout.home)
    (hs : ((b.pass clocks).store.perform (b.now clocks) c).2 = (b.pass clocks).store)
    (hw : (b.pass clocks).store.changes (b.now clocks) c = []) :
    Account layout K paid [] (b.serve clocks supersedes (.store c)).2 := by
  refine h.ask hc ?_ (by simp) ?_
  · rw [Books.writes, hw]
    rfl
  · rw [hs]
    exact (h.pass clocks).known

end Account

/-! ## The calls -/

/-- What becomes of a change of state: it is posted, or it is not allowed and nothing is posted. -/
inductive Moved (key : JobKey) (state : QueueState) (superseded : Bool) :
    Result Transition → List Transition → Prop where
  | done (current : QueueState) : Moved key state superseded
    (.ok ⟨key, state, some current, superseded⟩) [⟨key, state, some current, superseded⟩]
  | refused (current : Option QueueState) : Moved key state superseded
    (.error (.illegalTransition key.text current state)) []

/-- What is posted of a job that a push displaces: its end, unless the status of the job does not
allow it. -/
inductive Displaced : Option JobKey → QueueState → List Transition → Prop where
  | ended (key : JobKey) (state current : QueueState) :
    Displaced (some key) state [⟨key, state, some current, true⟩]
  | left (job : Option JobKey) (state : QueueState) : Displaced job state []

/-- The transition that tells that a waiting job has got a slot. -/
def starting (key : JobKey) : Transition := ⟨key, .starting, some .queued, false⟩

/-- What a call gives back and what it posts, if it finds the store `s` at the time `now`. -/
def Call.Promise (l : Ledger) (s : InProcess) (now : Int) :
    (c : Call) → c.Answer → List Transition → Prop
  | .push key, result, new => ∃ outcome : PushOutcome, result = .ok outcome ∧
      outcome.duplicate = decide (key.text ∈ s.queue (l.layout.queue key)) ∧
      if outcome.duplicate then new = []
      else ∃ previous first second, new = ⟨key, .queued, previous, false⟩ :: (first ++ second) ∧
        Displaced outcome.cancelled .cancelled first ∧ Displaced outcome.aborted .aborted second
  | .start max, result, new => ∃ keys : List JobKey, result = .ok keys ∧ new = keys.map starting ∧
      keys.map JobKey.text = (s.start l.layout.pools max l.ttl now).1.admitted ∧
      ∀ t ∈ new, t.key.text ∉ (s.start l.layout.pools max l.ttl now).1.stale
  | .addState key state, result, new => Moved key state false result new
  | .status key, result, new => ∃ state : Option QueueState, result = .ok state ∧
      state.map QueueState.name = s.status? (l.layout.status key) ∧ new = []
  | .pool which, result, new => result = .ok (s.entries l.layout.pools which) ∧ new = []

section Calls

variable {l : Ledger} {K : JobKey → Prop} {paid : List Transition} {b : Books}
  {clocks : Clocks} {supersedes : StatusChange → Bool}

theorem post_leads (t : Transition) (owed : List Transition) :
    (post t).Leads (Books.serve clocks supersedes) (Account l.layout K paid (t :: owed))
      fun _ => Account l.layout K (paid ++ [t]) owed :=
  .request fun _ h => h.post

section Apply

variable {key : JobKey} {state : QueueState} {superseded : Bool}
  (hsup : ∀ previous, supersedes ⟨key.text, state.name, previous⟩ = superseded)

/-- The answer to the question for a status is the name of a state. -/
def Read (layout : KeyLayout) (K : JobKey → Prop) (paid : List Transition)
    (answer : Result (Option String)) (b : Books) : Prop :=
  ∃ found : Option QueueState, answer = .ok (found.map QueueState.name) ∧
    Account layout K paid [] b

theorem read_leads (key : JobKey) :
    (ask (.status (l.layout.status key))).Leads (Books.serve clocks supersedes)
      (Account l.layout K paid []) (Read l.layout K paid) := by
  refine .request fun x hx => ?_
  obtain ⟨found, hfound⟩ := (hx.pass clocks).known.exists_state key.text
  exact ⟨found, congrArg Except.ok hfound, hx.read trivial rfl rfl⟩

/-- The swap has been made and its transition is owed, or another state was in its way. -/
def Swapped (layout : KeyLayout) (K : JobKey → Prop) (paid : List Transition) (t : Transition)
    (answer : Result SwapReply) (b : Books) : Prop :=
  (∃ held, answer = .ok (.applied held) ∧ Account layout K paid [t] b) ∨
    ∃ found : Option QueueState, answer = .ok (.rejected (found.map QueueState.name)) ∧
      Account layout K paid [] b

include hsup

theorem swap_leads (current : QueueState) :
    (ask (.swap l.layout.pools (l.swapOf key current state) l.ttl)).Leads
      (Books.serve clocks supersedes) (Account l.layout K paid [])
      (Swapped l.layout K paid ⟨key, state, some current, superseded⟩) := by
  refine .request fun x hx => ?_
  have hlawful : (StoreCall.swap l.layout.pools (l.swapOf key current state) l.ttl).Respects
      l.layout.pools l.layout.home := ⟨rfl, (l.layout.home_text key).symm⟩
  have hknown := (hx.pass clocks).known
  by_cases hs : (x.pass clocks).store.status? (l.layout.pools.status key.text) = some current.name
  · obtain ⟨held, e⟩ := @InProcess.swap_of_eq _ l.layout.pools (l.swapOf key current state) hs l.ttl
      (x.now clocks)
    have hreply := congrArg Prod.fst e
    have hswapped := hknown.swap l key current state l.ttl (x.now clocks)
    refine .inl ⟨held, congrArg Except.ok hreply,
      hx.ask hlawful (Account.writes_single ?_ (hsup _)) ?_ hswapped⟩
    · rw [InProcess.changes, hreply]
      exact congrArg (fun previous => [StatusChange.mk key.text state.name previous]) hs
    · rw [List.forall_mem_singleton]
      exact names_text.1 (hknown.live _ _ hs).1
  · have e := @InProcess.swap_of_ne _ l.layout.pools (l.swapOf key current state) hs l.ttl
      (x.now clocks)
    obtain ⟨found, hfound⟩ := hknown.exists_state key.text
    have hreply := congrArg Prod.fst e
    refine .inr ⟨found, congrArg Except.ok (hreply.trans (congrArg SwapReply.rejected hfound)),
      hx.read hlawful (congrArg Prod.snd e) ?_⟩
    rw [InProcess.changes, hreply]

theorem apply_leads :
    (l.apply key state superseded).Leads (Books.serve clocks supersedes)
      (Account l.layout K paid []) fun result x =>
        ∃ new, Moved key state superseded result new ∧ Account l.layout K (paid ++ new) [] x := by
  have hrefused : ∀ (current : Option QueueState) (x : Books), Account l.layout K paid [] x →
      ∃ new, Moved key state superseded (.error (.illegalTransition key.text current state)) new ∧
        Account l.layout K (paid ++ new) [] x := by
    intro current x hx
    refine ⟨[], .refused current, ?_⟩
    rwa [List.append_nil]
  rw [apply_eq]
  refine .ask (M := Read l.layout K paid) (read_leads key) fun answer => ?_
  refine .of_exists fun found => .of_and fun e => ?_
  subst e
  dsimp only
  rw [readState_map_name]
  cases found with
  | none => exact .done (hrefused none)
  | some current =>
    dsimp only
    split
    · refine .ask (M := Swapped l.layout K paid ⟨key, state, some current, superseded⟩)
        (swap_leads hsup current) fun reply => ?_
      rintro x (⟨held, rfl, hx⟩ | ⟨found, rfl, hx⟩)
      · exact ⟨_, .done current, hx.post⟩
      · dsimp only
        rw [readState_map_name]
        exact hrefused found x hx
    · exact .done (hrefused (some current))

end Apply

theorem supersede_leads {state : QueueState}
    (hsup : ∀ job previous, supersedes ⟨job, state.name, previous⟩ = true) (job : Option JobKey) :
    (l.supersede job state).Leads (Books.serve clocks supersedes) (Account l.layout K paid [])
      fun _ x => ∃ new, Displaced job state new ∧ Account l.layout K (paid ++ new) [] x := by
  cases job with
  | none =>
    refine .done fun x hx => ⟨[], .left none state, ?_⟩
    rwa [List.append_nil]
  | some key =>
    refine .bind (apply_leads (hsup key.text)) fun result => .done ?_
    rintro x ⟨new, hmoved, hx⟩
    cases hmoved with
    | done current => exact ⟨_, .ended key state current, hx⟩
    | refused current => exact ⟨_, .left (some key) state, hx⟩

/-! ### Pushes -/

/-- The operation of the store that a push asks for. -/
abbrev pushOf (l : Ledger) (key : JobKey) : StoreCall :=
  .push (l.layout.queue key) l.layout.pools key.text key.canonicalId l.ttl

/-- The store has taken a job that its queue did not have, which is owed. -/
def Taken (layout : KeyLayout) (K : JobKey → Prop) (paid : List Transition) (key : JobKey)
    (answer : Result PushReply) (b : Books) : Prop :=
  ∃ (size : Nat) (cancelled aborted : Option JobKey) (previous : Option QueueState),
    answer = .ok ⟨size, cancelled.map JobKey.text, aborted.map JobKey.text, false,
      previous.map QueueState.name⟩ ∧
    Account layout K paid [⟨key, .queued, previous, false⟩] b

theorem taken {key : JobKey} (hb : Account l.layout K paid [] b) (hk : K key)
    (hq : key.text ∉ (b.pass clocks).store.queue (l.layout.queue key))
    (hsup : ∀ previous, supersedes ⟨key.text, QueueState.queued.name, previous⟩ = false) :
    Taken l.layout K paid key (b.serve clocks supersedes (.store (l.pushOf key))).1
      (b.serve clocks supersedes (.store (l.pushOf key))).2 := by
  have hlawful : (l.pushOf key).Respects l.layout.pools l.layout.home :=
    ⟨rfl, (l.layout.home_text key).symm⟩
  have hknown := (hb.pass clocks).known
  have e := (b.pass clocks).store.push_of_not_mem l.layout.pools key.canonicalId l.ttl
    (b.now clocks) hq
  obtain ⟨cancelled, hcancelled⟩ : ∃ k : Option JobKey, ((b.pass clocks).store.waitingIn
    (l.layout.queue key) l.layout.pools).getLast? = k.map JobKey.text := hknown.exists_last _ _
  obtain ⟨aborted, haborted⟩ : ∃ k : Option JobKey, ((b.pass clocks).store.runningIn
    (l.layout.queue key) l.layout.pools).getLast? = k.map JobKey.text := hknown.exists_last _ _
  obtain ⟨previous, hprevious⟩ := hknown.exists_state key.text
  have hreply := congrArg Prod.fst e
  dsimp only at hreply
  rw [hcancelled, haborted, hprevious] at hreply
  refine ⟨_, cancelled, aborted, previous, congrArg Except.ok hreply,
    hb.ask hlawful (Account.writes_single ?_ (hsup _)) ?_ (hknown.push hk hq _ _ _)⟩
  · rw [InProcess.changes, hreply, if_neg Bool.false_ne_true]
    exact congrArg (fun previous => [StatusChange.mk key.text QueueState.queued.name previous])
      hprevious
  · rwa [List.forall_mem_singleton]

/-! ### Starts -/

theorem announce_leads (keys : List JobKey) :
    (announce (keys.map JobKey.text)).Leads (Books.serve clocks supersedes)
      (Account l.layout K paid (keys.map starting)) fun started x =>
        started = keys ∧ Account l.layout K (paid ++ keys.map starting) [] x := by
  induction keys generalizing paid with
  | nil =>
    refine .done fun x hx => ⟨rfl, ?_⟩
    rwa [List.map_nil, List.append_nil]
  | cons key keys ih =>
    rw [List.map_cons, List.map_cons, announce, key.parse_text]
    refine .bind (post_leads (starting key) (keys.map starting)) fun _ => ?_
    refine .bind ih fun started => .of_and fun hs => .done fun x hx => ⟨congrArg (key :: ·) hs, ?_⟩
    rwa [List.append_assoc] at hx

end Calls

/-! ### Whole calls -/

/-- The call has kept its promise, and nothing is owed any more. -/
def Kept (clocks : Clocks) (l : Ledger) (K : JobKey → Prop) (b : Books) (c : Call)
    (result : c.Answer) (x : Books) : Prop :=
  ∃ new, c.Promise l (b.pass clocks).store (b.now clocks) result new ∧
    Account l.layout K (b.posted ++ new) [] x

section Whole

variable {l : Ledger} {K : JobKey → Prop} {b : Books} {clocks : Clocks}
  (hb : Account l.layout K b.posted [] b)
include hb

theorem push_keeps {key : JobKey} (hk : K key) :
    (l.push key).Leads (Books.serve clocks (Call.push key).supersedes) (· = b)
      (Kept clocks l K b (.push key)) := by
  -- A duplicate writes nothing. Else the push is owed first, and then what it supersedes.
  by_cases hq : key.text ∈ (b.pass clocks).store.queue (l.layout.queue key)
  · have e := (b.pass clocks).store.push_of_mem l.layout.pools key.canonicalId l.ttl
      (b.now clocks) hq
    have hreply := congrArg Prod.fst e
    refine .bind (Q := fun answer x =>
      answer = .ok ⟨((b.pass clocks).store.queue (l.layout.queue key)).length, none, none, true,
        none⟩ ∧ Account l.layout K b.posted [] x) (.request ?_) fun answer => .of_and fun ha => ?_
    · rintro x rfl
      refine ⟨congrArg Except.ok hreply, hb.read ⟨rfl, (l.layout.home_text key).symm⟩
        (congrArg Prod.snd e) ?_⟩
      rw [InProcess.changes, hreply, if_pos rfl]
    · subst ha
      refine .done fun x hx => ⟨[], ⟨_, rfl, (decide_eq_true hq).symm, rfl⟩, ?_⟩
      rwa [List.append_nil]
  · refine .bind (Q := Taken l.layout K b.posted key) (.request ?_) fun answer => ?_
    · rintro x rfl
      exact taken hb hk hq fun _ => rfl
    refine .of_exists fun size => .of_exists fun cancelled => .of_exists fun aborted =>
      .of_exists fun previous => .of_and fun ha => ?_
    subst ha
    have hprevious : readableState (previous.map QueueState.name) = previous := by
      rw [readableState, readState_map_name]
    dsimp only
    rw [if_neg Bool.false_ne_true, displaced_map_text, hprevious]
    refine .bind (post_leads _ []) fun _ => ?_
    refine .bind (supersede_leads (fun _ _ => rfl) cancelled) fun _ => ?_
    refine .of_exists fun first => .of_and fun hfirst => ?_
    refine .bind (supersede_leads (fun _ _ => rfl) aborted) fun _ => ?_
    refine .of_exists fun second => .of_and fun hsecond => .done fun x hx => ?_
    refine ⟨⟨key, .queued, previous, false⟩ :: (first ++ second), ⟨_, rfl,
      (decide_eq_false hq).symm, previous, first, second, rfl, hfirst, hsecond⟩, ?_⟩
    simpa using hx

theorem start_keeps (max : Nat) :
    (l.start max).Leads (Books.serve clocks (Call.start max).supersedes) (· = b)
      (Kept clocks l K b (.start max)) := by
  have hknown := (hb.pass clocks).known
  obtain ⟨lane, hf⟩ := (hb.pass clocks).lanes
  obtain ⟨_, -, hstarted⟩ := hf.start l.layout.pools_distinct
    (Known.walk l.layout K l.ttl (b.now clocks)) hknown max
  -- The texts of admitted jobs are read back as keys because the jobs have live statuses.
  have hnamed : ∀ job ∈ ((b.pass clocks).store.start l.layout.pools max l.ttl
      (b.now clocks)).1.admitted, Names K job := fun job hj =>
    (hknown.live job _ (InProcess.queued_of_start hj)).1
  obtain ⟨keys, hkeys, hK⟩ := exists_keys hnamed
  refine .bind (Q := fun answer x => answer = .ok ((b.pass clocks).store.start l.layout.pools max
      l.ttl (b.now clocks)).1 ∧ Account l.layout K b.posted (keys.map starting) x) (.request ?_)
    fun answer => .of_and fun ha => ?_
  · rintro x rfl
    refine ⟨rfl, hb.ask (c := .start l.layout.pools max l.ttl) rfl ?_ ?_ hstarted⟩
    · rw [Books.writes, InProcess.changes_start, hkeys]
      simp [Function.comp_def, starting, Transition.entry, Call.supersedes]
    · intro t ht
      obtain ⟨key, hkey, rfl⟩ := List.mem_map.1 ht
      exact hK key hkey
  · subst ha
    dsimp only
    rw [hkeys]
    refine .bind (announce_leads keys) fun started => .of_and fun hs => ?_
    subst hs
    refine .done fun x hx => ⟨_, ⟨started, rfl, rfl, hkeys.symm, fun t ht => ?_⟩, hx⟩
    obtain ⟨key, hkey, rfl⟩ := List.mem_map.1 ht
    refine hf.not_stale_of_admitted l.layout.pools_distinct ?_
    rw [hkeys]
    exact List.mem_map_of_mem hkey

theorem addState_keeps (key : JobKey) (state : QueueState) :
    (l.addState key state).Leads (Books.serve clocks (Call.addState key state).supersedes) (· = b)
      (Kept clocks l K b (.addState key state)) := by
  rintro x rfl
  exact apply_leads (fun _ => rfl) x hb

theorem status_keeps (key : JobKey) :
    (l.status key).Leads (Books.serve clocks (Call.status key).supersedes) (· = b)
      (Kept clocks l K b (.status key)) := by
  rintro x rfl
  obtain ⟨state, hstate⟩ := (hb.pass clocks).known.exists_state key.text
  refine ⟨[], ⟨state, ?_, hstate.symm, rfl⟩, ?_⟩
  · rw [status_eq]
    refine Eq.trans (congrArg readState hstate) ?_
    exact readState_map_name state
  · rw [status_eq, List.append_nil]
    exact hb.read (c := .status (l.layout.status key)) trivial rfl rfl

theorem pool_keeps (which : Pool) :
    (l.pool which).Leads (Books.serve clocks (Call.pool which).supersedes) (· = b)
      (Kept clocks l K b (.pool which)) := by
  rintro x rfl
  refine ⟨[], ⟨rfl, rfl⟩, ?_⟩
  rw [List.append_nil]
  exact hb.read (c := .pool l.layout.pools which) trivial rfl rfl

theorem call_keeps {c : Call} (hc : ∀ key, c = .push key → K key) :
    Kept clocks l K b c (b.call clocks l c).1 (b.call clocks l c).2 := by
  cases c with
  | push key => exact push_keeps hb (hc key rfl) b rfl
  | start max => exact start_keeps hb max b rfl
  | addState key state => exact addState_keeps hb key state b rfl
  | status key => exact status_keeps hb key b rfl
  | pool which => exact pool_keeps hb which b rfl

end Whole

/-- Between two calls nothing is owed. -/
theorem account_run {layout : KeyLayout} {K : JobKey → Prop} {b : Books}
    (hb : Account layout K b.posted [] b) (clocks : Clocks) {calls : List (Nat × Call)}
    (hc : ∀ ttl key, (ttl, Call.push key) ∈ calls → K key) :
    Account layout K (b.run clocks layout calls).posted [] (b.run clocks layout calls) := by
  induction calls generalizing b with
  | nil => exact hb
  | cons first calls ih =>
    obtain ⟨ttl, c⟩ := first
    obtain ⟨new, -, hx⟩ := @call_keeps ⟨layout, ttl⟩ K b clocks hb c
      fun key e => hc ttl key (e ▸ List.mem_cons_self)
    refine ih (b := (b.call clocks ⟨layout, ttl⟩ c).2) ?_
      fun ttl key hm => hc ttl key (List.mem_cons_of_mem _ hm)
    rw [hx.posted]
    exact hx

/-- Whatever calls have run to their ends on an empty store, and whatever time has gone by: what has
been posted is, in order, what is on record, and the text of each status, alive or not, is that of
the last entry of its job; all of it is about jobs that have been pushed, under their keys. At each
request of a further call what is put on record is what is done to the statuses of the store, with
the live status just before; and the call gives back and posts what it promises. -/
theorem postings_are_writes (clocks : Clocks) (layout : KeyLayout) (calls : List (Nat × Call)) :
    let b := ({} : Books).run clocks layout calls
    b.posted.map Transition.entry = b.entries ∧
      (∀ job, b.store.statuses[layout.pools.status job]?.map Prod.fst =
        Entry.lastText b.entries job) ∧
      (∀ t ∈ b.posted, ∃ ttl, (ttl, Call.push t.key) ∈ calls) ∧
      ∀ (ttl : Nat) (c : Call),
        (b.course clocks ⟨layout, ttl⟩ c).IsChain (Books.Records clocks ⟨layout, ttl⟩) ∧
        (b.course clocks ⟨layout, ttl⟩ c).getLast? = some (b.call clocks ⟨layout, ttl⟩ c).2 ∧
        ∃ new, (b.call clocks ⟨layout, ttl⟩ c).2.posted = b.posted ++ new ∧
          c.Promise ⟨layout, ttl⟩ (b.pass clocks).store (b.now clocks)
            (b.call clocks ⟨layout, ttl⟩ c).1 new := by
  intro b
  have hpushed : Account layout (fun key => ∃ ttl, (ttl, Call.push key) ∈ calls) b.posted [] b :=
    account_run .empty clocks fun ttl key hm => ⟨ttl, hm⟩
  have hany : Account layout (fun _ => True) b.posted [] b :=
    account_run .empty clocks fun _ _ _ => trivial
  refine ⟨?_, hpushed.last, fun t ht => hpushed.keys t (List.mem_append_left _ ht),
    fun ttl c => ⟨b.isChain_course clocks _ c, Prog.getLast?_visits _ b, ?_⟩⟩
  · rw [← hpushed.entries, List.append_nil]
  · obtain ⟨new, hpromise, hx⟩ := @call_keeps ⟨layout, ttl⟩ _ b clocks hany c fun _ _ => trivial
    exact ⟨new, hx.posted, hpromise⟩

/-- A push aborts the job that has the slot. -/
example : (({} : Books).run ⟨fun n => n, fun _ => 1⟩ ⟨"builds"⟩
    [(50, .push (rival "1")), (50, .start 1), (50, .push (rival "2"))]).posted =
      [⟨rival "1", .queued, none, false⟩, starting (rival "1"), ⟨rival "2", .queued, none, false⟩,
        ⟨rival "1", .aborted, some .starting, true⟩] := by
  decide +kernel

end Ledger

end BuildQueue
