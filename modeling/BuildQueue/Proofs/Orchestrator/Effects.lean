import BuildQueue.Proofs.Ledger.Paths
import BuildQueue.Proofs.Orchestrator.Sites

/-!
# What calls of the ledger do to a site

Between a change in the store and the posting of it nothing happens but that time passes. So a call
of the ledger can be looked at as if it posted at once (`owe`): what holds of the site with the
transition in the mailbox when the store has changed, holds when the transition has been posted.
-/

namespace BuildQueue

/-- The transitions that tell of admitted jobs. -/
def Ledger.starts (jobs : List String) : List Transition :=
  jobs.filterMap fun raw =>
    match JobKey.parse raw with
    | .ok key => some ⟨key, .starting, some .queued, false⟩
    | .error _ => none

namespace Orchestrator.Site

variable {σ : Type} {react : σ → interface.Request → Moment × σ} {P Q : Site σ → Prop}

/-- The requests of a ledger at the site. -/
abbrev serveLedger (react : σ → interface.Request → Moment × σ) (r : Ledger.Request) :
    Site σ → Ledger.Reply r × Site σ :=
  serve react (.inl r)

/-- The site when transitions will have been posted. -/
def owe (s : Site σ) (ts : List Transition) : Site σ :=
  { s with mailbox.transitions := s.mailbox.transitions ++ ts }

/-- The property outlasts the moments of the ledger's requests. -/
def Patient (react : σ → interface.Request → Moment × σ) (P : Site σ → Prop) : Prop :=
  ∀ (r : Ledger.Request) (s : Site σ), P s → P (s.pass react (.inl r))

/-- A request to the store. -/
theorem ask_leads (hP : Patient react P) (c : StoreCall)
    {M : Ledger.Result c.Answer → Site σ → Prop}
    (h : ∀ (s : Site σ) (now : Int), P s →
      M (.ok (s.store.perform now c).1) { s with store := (s.store.perform now c).2 }) :
    (Ledger.ask c).Leads (serveLedger react) P M :=
  fun s hs => h _ _ (hP _ s hs)

theorem owe_nil (s : Site σ) : s.owe [] = s := by
  simp [owe]

/-- Posting makes good for the first of the transitions that are owed. -/
theorem owe_post (s : Site σ) (t : Transition) (ts : List Transition) :
    { s with mailbox := s.mailbox.post t }.owe ts = s.owe (t :: ts) := by
  simp [owe, Mailbox.post]

theorem post_leads (hP : Patient react P) (t : Transition) (ts : List Transition) :
    (Ledger.post t).Leads (serveLedger react) (fun s => P (s.owe (t :: ts)))
      fun _ s => P (s.owe ts) := by
  refine .request fun s hs => ?_
  show P (Site.owe { s.pass react _ with mailbox := (s.pass react _).mailbox.post t } ts)
  rw [owe_post]
  exact hP _ (s.owe (t :: ts)) hs

theorem announce_leads (hP : Patient react P) (jobs : List String) :
    (Ledger.announce jobs).Leads (serveLedger react) (fun s => P (s.owe (Ledger.starts jobs)))
      fun _ => P := by
  induction jobs with
  | nil =>
    refine .done fun s hs => ?_
    rwa [← s.owe_nil]
  | cons raw rest ih =>
    rw [Ledger.announce]
    cases hp : JobKey.parse raw with
    | error e =>
      have hskip : Ledger.starts (raw :: rest) = Ledger.starts rest :=
        List.filterMap_cons_none (by rw [hp])
      rw [hskip]
      exact ih
    | ok key =>
      have hpost : Ledger.starts (raw :: rest) =
          ⟨key, .starting, some .queued, false⟩ :: Ledger.starts rest :=
        List.filterMap_cons_some (by rw [hp])
      rw [hpost]
      refine .bind (post_leads hP _ _) fun _ => ?_
      exact .bind (Q := fun _ => P) ih fun _ => .done fun _ hs => hs

section Calls

variable {l : Ledger}

theorem status_leads (hP : Patient react P) (key : JobKey) :
    (l.status key).Leads (serveLedger react) P fun _ => P := by
  rw [Ledger.status_eq]
  exact .ask (M := fun _ => P) (fun s hs => hP _ s hs) fun _ => .done fun _ hs => hs

/-- A start is over when the admitted jobs have been announced. -/
theorem start_leads (hP : Patient react P) (hQ : Patient react Q) {max : Nat}
    (hstart : ∀ (s : Site σ) (now : Int), P s →
      let done := s.store.start l.layout.pools max l.ttl now
      Q ({ s with store := done.2 }.owe (Ledger.starts done.1.admitted))) :
    (l.start max).Leads (serveLedger react) P fun _ => Q := by
  refine .bind (ask_leads hP (.start l.layout.pools max l.ttl)
    (M := fun reply s => ∃ admitted stale, reply = .ok ⟨admitted, stale⟩ ∧
      Q (s.owe (Ledger.starts admitted)))
    fun s now hs => ⟨_, _, rfl, hstart s now hs⟩) fun reply => ?_
  rcases reply with e | reply
  · rintro s ⟨_, _, e, _⟩
    cases e
  · refine .bind (Q := fun _ => Q) (fun s hs => ?_) fun _ => .done fun _ hs => hs
    obtain ⟨admitted, stale, e, hs⟩ := hs
    cases e
    exact announce_leads hQ admitted s hs

/-- What holds after the answer to a swap, when the change will have been posted. -/
def Swapped (P : Site σ → Prop) (t : Transition) : Ledger.Result SwapReply → Site σ → Prop
  | .ok (.applied _), s => P (s.owe [t])
  | _, s => P s

section Swap

variable (hP : Patient react P) (hQ : Patient react Q) (hPQ : ∀ s, P s → Q s) {key : JobKey}
  {state : QueueState} {superseded : Bool}
  (hswap : ∀ (s : Site σ) (now : Int) (current : QueueState), P s →
    s.store.status? (l.layout.status key) = some current.name →
    let done := s.store.swap l.layout.pools (l.swapOf key current state) l.ttl now
    Q ({ s with store := done.2 }.owe [⟨key, state, some current, superseded⟩]))
include hP hPQ hswap

/-- The store may refuse a swap, because the status has expired since it was read. -/
theorem swap_leads (current : QueueState) :
    (Ledger.ask (.swap l.layout.pools (l.swapOf key current state) l.ttl)).Leads
      (serveLedger react) P (Swapped Q ⟨key, state, some current, superseded⟩) := by
  refine ask_leads hP _ fun s now hs => ?_
  show Swapped Q _ (.ok (s.store.swap l.layout.pools (l.swapOf key current state) l.ttl now).1)
    { s with store := (s.store.swap l.layout.pools (l.swapOf key current state) l.ttl now).2 }
  by_cases he : s.store.status? (l.layout.status key) = some current.name
  · obtain ⟨held, e⟩ := @InProcess.swap_of_eq s.store l.layout.pools
      (l.swapOf key current state) he l.ttl now
    have hdone := hswap s now current hs he
    rw [congrArg Prod.fst e]
    exact hdone
  · rw [@InProcess.swap_of_ne s.store l.layout.pools (l.swapOf key current state) he]
    exact hPQ s hs

include hQ

/-- A change of state is over when the store has refused it, or when it has been posted. -/
theorem apply_leads :
    (l.apply key state superseded).Leads (serveLedger react) P fun _ => Q := by
  rw [Ledger.apply_eq]
  refine .ask (M := fun _ => P) (fun s hs => hP _ s hs) fun answer => ?_
  rcases answer with e | raw
  · exact .done hPQ
  · dsimp only
    split
    · exact .done hPQ
    · exact .done hPQ
    · next current _ =>
      split
      · refine .bind (swap_leads hP hPQ hswap current) fun reply => ?_
        rcases reply with e | held | found
        · exact .done fun _ hs => hs
        · refine .bind (post_leads hQ _ []) fun _ => .done fun s hs => ?_
          rwa [← s.owe_nil]
        · exact .done fun _ hs => hs
      · exact .done hPQ

end Swap

/-- What holds after the answer to a push, when the push will have been posted. -/
def Pushed (P : Site σ → Prop) (key : JobKey) : Ledger.Result PushReply → Site σ → Prop
  | .ok reply, s =>
    if reply.duplicate then P s
    else P (s.owe [⟨key, .queued, Ledger.readableState reply.previous, false⟩])
  | .error _, s => P s

/-- A push is over when it was one of a queued job, or when it has been posted and so has the end of
each job that it displaced. -/
theorem push_leads (hP : Patient react P) {key : JobKey}
    (hpush : ∀ (s : Site σ) (now : Int), P s → key.text ∉ s.store.queue (l.layout.queue key) →
      let done := s.store.push (l.layout.queue key) l.layout.pools key.text key.canonicalId l.ttl
        now
      P ({ s with store := done.2 }.owe
        [⟨key, .queued, Ledger.readableState done.1.previous, false⟩]))
    (hswap : ∀ (other : JobKey) (state : QueueState) (s : Site σ) (now : Int)
      (current : QueueState), P s →
      s.store.status? (l.layout.status other) = some current.name →
      let done := s.store.swap l.layout.pools (l.swapOf other current state) l.ttl now
      P ({ s with store := done.2 }.owe [⟨other, state, some current, true⟩])) :
    (l.push key).Leads (serveLedger react) P fun _ => P := by
  have hsupersede : ∀ (job : Option JobKey) (state : QueueState),
      (l.supersede job state).Leads (serveLedger react) P fun _ => P := by
    intro job state
    cases job with
    | none => exact .done fun _ hs => hs
    | some other =>
      refine .bind (apply_leads hP hP (fun _ hs => hs) (hswap other state)) fun _ => ?_
      exact .done fun _ hs => hs
  have hask : (Ledger.ask (.push (l.layout.queue key) l.layout.pools key.text key.canonicalId
      l.ttl)).Leads (serveLedger react) P (Pushed P key) := by
    refine ask_leads hP _ fun s now hs => ?_
    show Pushed P key (.ok (s.store.push (l.layout.queue key) l.layout.pools key.text
      key.canonicalId l.ttl now).1) { s with store := (s.store.push (l.layout.queue key)
        l.layout.pools key.text key.canonicalId l.ttl now).2 }
    by_cases hq : key.text ∈ s.store.queue (l.layout.queue key)
    · rw [s.store.push_of_mem _ _ _ _ hq]
      exact hs
    · have hdone := hpush s now hs hq
      have hreply := congrArg (·.1.duplicate) (s.store.push_of_not_mem l.layout.pools
        key.canonicalId l.ttl now hq)
      rw [Pushed, if_neg (by rw [hreply]; exact Bool.false_ne_true)]
      exact hdone
  refine .bind hask fun reply => ?_
  rcases reply with e | reply
  · exact .done fun _ hs => hs
  · dsimp only
    by_cases hd : reply.duplicate = true
    · rw [if_pos hd]
      refine .done fun s hs => ?_
      rwa [Pushed, if_pos hd] at hs
    · rw [if_neg hd]
      have hpost := post_leads hP ⟨key, .queued, Ledger.readableState reply.previous, false⟩ []
      refine .bind (hpost.weaken (fun s hs => ?_) fun _ _ hs => hs) fun _ => ?_
      · rwa [Pushed, if_neg hd] at hs
      · simp only [owe_nil]
        split
        · exact .done fun _ hs => hs
        · refine .bind (hsupersede _ _) fun _ => ?_
          exact .bind (hsupersede _ _) fun _ => .done fun _ hs => hs

end Calls

end Orchestrator.Site

end BuildQueue
