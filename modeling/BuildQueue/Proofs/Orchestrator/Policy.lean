import BuildQueue.Proofs.Orchestrator.Journal
import BuildQueue.Proofs.Store.Origin

/-!
# What policy allows

A policy is looked at in three places: before a job is queued, before an update is merged and before
a release is cut. Executor reports, timeouts and transitions may be about any job at any time, but a
handler goes on only after the store has told it that the job has a status. So it is enough that a
handler can account for what it does by what it was told itself (`Duty.justified`), and that the
store holds only jobs that policy had queued: then nothing happens in any run that policy does not
allow (`System.policy_gates`).
-/

namespace BuildQueue.Orchestrator

/-! ## Evidence -/

section Evidence

variable (o : Orchestrator) (K : JobKey → Prop) (past : Set (Exchange interface))

/-- The repository of a job is active, and has its branch built if the job is about one. -/
def Configured (key : JobKey) : Prop :=
  ∃ policy, o.config.activeRepository key.source = some policy ∧
    ∀ branch, key.ref = .branch branch → policy.builds branch = true

/-- There is something to build in a commit, as was found out. -/
def Buildable (source : Source) (commit : CommitId) : Prop :=
  ⟨.inr (.call (.hasBuildDefinition source commit)), .ok true⟩ ∈ past

/-- The store has told that a job has a status. -/
def Seen (key : JobKey) : Prop :=
  ∃ raw, ⟨.inl (.store (.status (o.ledger.layout.status key))), .ok (some raw)⟩ ∈ past

/-- The change of a job has landed on a branch: it was pushed there, or it was merged and the answer
was that branch. -/
inductive Landed (key : JobKey) (branch : String) : Prop where
  | pushed (ref : key.ref = .branch branch)
  | merged {id target : String} (ref : key.ref = .update id target)
    (answer : ⟨.inr (.call (.merge key.source id)), .ok branch⟩ ∈ past)

/-- A release of a commit is due: a job of `K` has landed on a branch from which its repository has
releases cut, and the version was asked for with the bump and the commit as the tip of that
branch. -/
def Due (source : Source) (commit : CommitId) (version : Version) (bump : Bump) : Prop :=
  ∃ key policy branch, K key ∧ key.source = source ∧
    o.config.repository source = some policy ∧ Landed past key branch ∧
    policy.releaseFor branch = some bump ∧
    ⟨.inr (.call (.nextVersion source branch bump)), .ok version⟩ ∈ past ∧
    ⟨.inr (.call (.branchHead source branch)), .ok commit⟩ ∈ past

/-- What policy allows to be called about jobs of `K`, by whom was told what is in `past`. -/
def Allows : Call → Prop
  | .startJob key | .publish key => K key
  | .setValidBuild source commit _ => ∃ key, K key ∧ key.source = source ∧ key.commit = commit
  | .merge source id => ∃ key target policy, K key ∧ key.source = source ∧
      key.ref = .update id target ∧ o.config.repository source = some policy ∧ policy.merge = true
  | .createTag source commit tag => ∃ version bump, tag = version.tag ∧
      o.Due K past source commit version bump
  | .createBranch source commit name => ∃ version bump policy, name = version.maintenanceBranch ∧
      o.Due K past source commit version bump ∧ bump ≠ .patch ∧
      o.config.repository source = some policy ∧ policy.maintenanceBranches = true
  | _ => True

/-- What policy allows a handler to ask for. -/
def Permits : interface.Request → Prop
  | .inl (.store (.push _ _ job _ _)) => ∃ key : JobKey, key.text = job ∧ o.Configured key ∧
      Buildable past key.source key.commit
  | .inr (.call c) | .inr (.background c) => o.Allows (o.Seen past) past c
  | _ => True

end Evidence

section Mono

variable {o : Orchestrator} {K L : JobKey → Prop} {past later : Set (Exchange interface)}

theorem Seen.mono (h : past ⊆ later) {key : JobKey} (hs : o.Seen past key) : o.Seen later key := by
  obtain ⟨raw, hr⟩ := hs
  exact ⟨raw, h hr⟩

theorem Landed.mono (h : past ⊆ later) {key : JobKey} {branch : String}
    (hl : Landed past key branch) : Landed later key branch := by
  cases hl with
  | pushed ref => exact .pushed ref
  | merged ref answer => exact .merged ref (h answer)

theorem Due.mono (hK : ∀ key, K key → L key) (h : past ⊆ later) {source : Source}
    {commit : CommitId} {version : Version} {bump : Bump}
    (hd : o.Due K past source commit version bump) :
    o.Due L later source commit version bump := by
  obtain ⟨key, policy, branch, hk, hs, hp, hl, hr, hv, hc⟩ := hd
  exact ⟨key, policy, branch, hK key hk, hs, hp, hl.mono h, hr, h hv, h hc⟩

/-- What is allowed stays so when more is known. -/
theorem Allows.mono (hK : ∀ key, K key → L key) (h : past ⊆ later) {c : Call}
    (hc : o.Allows K past c) : o.Allows L later c := by
  cases c with
  | startJob key => exact hK key hc
  | publish key => exact hK key hc
  | setValidBuild source commit url =>
    obtain ⟨key, hk, hkey⟩ := hc
    exact ⟨key, hK key hk, hkey⟩
  | merge source id =>
    obtain ⟨key, target, policy, hk, hkey⟩ := hc
    exact ⟨key, target, policy, hK key hk, hkey⟩
  | createTag source commit tag =>
    obtain ⟨version, bump, ht, hd⟩ := hc
    exact ⟨version, bump, ht, hd.mono hK h⟩
  | createBranch source commit name =>
    obtain ⟨version, bump, policy, hn, hd, hpolicy⟩ := hc
    exact ⟨version, bump, policy, hn, hd.mono hK h, hpolicy⟩
  | _ => trivial

end Mono

/-! ## Handlers -/

/-- Whatever it is answered, the handler asks only for what policy allows by what it was told. -/
def Justified {α : Type} (o : Orchestrator) (past : Set (Exchange interface)) (p : Handler α) :
    Prop :=
  p.Justified o.Permits (fun _ _ => True) past

section Handlers

variable {o : Orchestrator} {past : Set (Exchange interface)} {α β : Type} {key : JobKey}

theorem Justified.pure (a : α) : o.Justified past (Pure.pure a : Handler α) := trivial

theorem Justified.bind {p : Handler α} {f : α → Handler β} (hp : o.Justified past p)
    (hf : ∀ a later, past ⊆ later → o.Justified later (f a)) : o.Justified past (p >>= f) :=
  Prog.Justified.bind hp fun a later hl _ => hf a later hl

/-- A call of the ledger that queues nothing but what is configured and can be built. -/
theorem ofLedger_justified {p : Prog Ledger.interface α}
    (h : p.Asks fun r => ∀ later, past ⊆ later → o.Permits later (.inl r)) :
    o.Justified past (ofLedger p) := by
  induction p generalizing past with
  | done a => trivial
  | ask r next ih =>
    refine ⟨h.1 past subset_rfl, fun x => ih x ?_⟩
    exact (h.2 x).mono fun r hr later hl => hr later ((Set.subset_insert _ _).trans hl)

theorem call_justified {c : Call} (h : o.Allows (o.Seen past) past c) :
    (call c).Justified o.Permits (fun later x => ⟨.inr (.call c), x⟩ ∈ later) past :=
  ⟨h, fun _ => Set.mem_insert _ _⟩

theorem inTurn_justified (turn : String) {c : Call} (h : o.Allows (o.Seen past) past c) :
    (inTurn turn c).Justified o.Permits (fun later x => ⟨.inr (.call c), x⟩ ∈ later) past := by
  refine ⟨trivial, fun _ => ⟨?_, fun x => ⟨trivial, fun _ => ?_⟩⟩⟩
  · have hl : past ⊆ insert ⟨.inr (.acquire turn), ()⟩ past := Set.subset_insert _ _
    exact h.mono (fun key hk => hk.mono hl) hl
  · exact Set.mem_insert_of_mem _ (Set.mem_insert _ _)

theorem log_justified (key : JobKey) (level : LogLevel) (message : String) :
    o.Justified past (log key level message) :=
  ⟨trivial, fun _ => trivial⟩

theorem logAll_justified (key : JobKey) (level : LogLevel) (messages : List String) :
    o.Justified past (logAll key level messages) := by
  induction messages generalizing past with
  | nil => exact .pure _
  | cons message rest ih => exact (log_justified _ _ _).bind fun _ _ _ => ih

theorem record_justified (key : JobKey) (state : QueueState) :
    o.Justified past (o.record key state) := by
  refine Justified.bind (ofLedger_justified ?_) fun reply _ _ => ?_
  · exact Ledger.apply_asks (fun _ _ _ => trivial) (fun _ _ _ _ _ => trivial)
      (fun _ _ _ => trivial) key state false
  · split <;> exact .pure _

theorem conclude_justified (key : JobKey) (state : QueueState) :
    o.Justified past (o.conclude key state) :=
  (record_justified key state).bind fun _ _ _ => .pure _

/-- A handler that logs why a job ends, and ends it. -/
theorem giveUp_justified (key : JobKey) (level : LogLevel) (message : String)
    (state : QueueState) :
    o.Justified past (log key level message >>= fun _ => o.conclude key state) :=
  (log_justified key level message).bind fun _ _ _ => conclude_justified key state

/-- A handler that records a state and logs it. -/
theorem report_justified (key : JobKey) (state : QueueState) (level : LogLevel)
    (message : String) : o.Justified past
      (o.record key state >>= fun b => if b then log key level message else pure ()) := by
  refine (record_justified key state).bind fun b _ _ => ?_
  split
  · exact log_justified _ _ _
  · exact .pure _

theorem drain_justified : o.Justified past o.drain := by
  refine Justified.bind (ofLedger_justified ?_) fun _ _ _ => .pure _
  exact Ledger.start_asks (fun _ _ _ => trivial) fun _ _ => trivial

/-- Whoever reads that a job is in a state has seen a status of it. -/
theorem status_justified (key : JobKey) : (ofLedger (o.ledger.status key)).Justified o.Permits
    (fun later r => ∀ state, r = .ok (some state) → o.Seen later key) past := by
  rw [Ledger.status_eq]
  refine ⟨trivial, fun answer state hr => ?_⟩
  have hanswer : answer = .ok (some state.name) := Ledger.eq_ok_of_bind_readState hr
  exact ⟨state.name, hanswer ▸ Set.mem_insert _ _⟩

theorem hasBuildDefinition_justified (source : Source) (commit : CommitId) :
    (hasBuildDefinition source commit).Justified o.Permits
      (fun later found => found = true → Buildable later source commit) past := by
  refine Prog.Justified.bind (inTurn_justified _ trivial) fun reply later _ hreply => ?_
  cases reply with
  | error e => exact .pure nofun
  | ok found =>
    refine .pure ?_
    rintro rfl
    exact hreply

theorem invalidate_justified (source : Source) : o.Justified past (invalidate source) :=
  Prog.Justified.bind (inTurn_justified _ trivial) fun _ _ _ _ =>
    Prog.Justified.bind (inTurn_justified _ trivial) fun _ _ _ _ => .pure trivial

/-! ### Changes -/

/-- A job is queued if policy has it built and there is something to build. -/
theorem push_justified (hc : o.Configured key) (hb : Buildable past key.source key.commit) :
    o.Justified past (ofLedger (o.ledger.push key)) := by
  refine ofLedger_justified (Ledger.push_asks (fun _ _ _ => trivial) (fun _ _ _ _ _ => trivial)
    (fun _ _ _ => trivial) fun later hl => ⟨key, rfl, hc, hl hb⟩)

theorem onUpdate_justified (u : Update) (message : String) (error : Option String) :
    o.Justified past (o.onUpdate u message error) := by
  unfold onUpdate
  split
  · exact .pure _
  · next hactive =>
    obtain ⟨policy, hpolicy⟩ := Option.ne_none_iff_exists'.1 fun h =>
      hactive (Option.isNone_iff_eq_none.2 h)
    split
    · exact (log_justified _ _ _).bind fun _ _ _ => .pure _
    · refine Prog.Justified.bind (hasBuildDefinition_justified _ _) fun found later _ hfound => ?_
      split
      · next hf =>
        have hc : o.Configured ⟨u.source, .update u.id u.target, u.commit⟩ :=
          ⟨policy, hpolicy, fun _ e => by cases e⟩
        refine (push_justified hc (hfound hf)).bind fun reply _ _ => ?_
        split
        · exact .pure _
        · split
          · exact (log_justified _ _ _).bind fun _ _ _ => .pure _
          · exact .pure _
      · exact .pure trivial

theorem onBranchPush_justified (source : Source) (branch : String) (commit : CommitId) :
    o.Justified past (o.onBranchPush source branch commit) := by
  unfold onBranchPush
  split
  · next hbuilds =>
    obtain ⟨policy, hpolicy, hb⟩ := (Option.any_eq_true _ _).1 hbuilds
    refine Prog.Justified.bind (hasBuildDefinition_justified _ _) fun found later _ hfound => ?_
    split
    · next hf =>
      refine (push_justified ⟨policy, hpolicy, ?_⟩ (hfound hf)).bind fun reply _ _ => ?_
      · rintro _ ⟨⟩
        exact hb
      · split
        · exact .pure _
        · split
          · exact (log_justified _ _ _).bind fun _ _ _ => .pure _
          · exact .pure _
    · exact .pure trivial
  · exact .pure _

theorem onPush_justified (source : Source) (ref : GitRef) (commit : CommitId) :
    o.Justified past (o.onPush source ref commit) := by
  refine (invalidate_justified source).bind fun _ later _ => ?_
  split
  · split
    · exact ⟨trivial, fun _ => trivial⟩
    · exact .pure _
  · exact onBranchPush_justified _ _ _

/-! ### Transitions -/

/-- The executor is called for a job of which a status was read. -/
theorem handOff_justified (key : JobKey) : o.Justified past (o.handOff key) := by
  refine Prog.Justified.bind (status_justified key) fun r later _ hseen => ?_
  split
  · refine Prog.Justified.bind (call_justified (hseen _ rfl)) fun reply _ _ _ => ?_
    split
    · exact .pure trivial
    · exact giveUp_justified _ _ _ _
  · exact .pure trivial

theorem checkDependencies_justified (key : JobKey) :
    o.Justified past (o.checkDependencies key) := by
  refine Prog.Justified.bind (call_justified trivial) fun reply later _ _ => ?_
  split
  · exact giveUp_justified _ _ _ _
  · split
    · exact handOff_justified key
    · exact (logAll_justified _ _ _).bind fun _ _ _ => conclude_justified _ _

theorem prepareUpdate_justified (key : JobKey) (updateId target : String) :
    o.Justified past (o.prepareUpdate key updateId target) := by
  refine Prog.Justified.bind (inTurn_justified _ trivial) fun reply later _ _ => ?_
  split
  · exact checkDependencies_justified key
  all_goals exact giveUp_justified _ _ _ _

theorem onTransition_justified (t : Transition) : o.Justified past (o.onTransition t) := by
  unfold onTransition
  split
  · unfold prepare
    split
    · exact prepareUpdate_justified _ _ _
    · exact checkDependencies_justified _
  · exact drain_justified
  · exact .pure _
  · split
    · exact Prog.Justified.bind (call_justified trivial) fun _ _ _ _ => drain_justified
    · exact drain_justified
  · exact drain_justified

/-! ### Releases -/

theorem openMaintenance_justified {source : Source} {head : CommitId} {version : Version}
    {bump : Bump} (h : o.Due (o.Seen past) past source head version bump) :
    o.Justified past (o.openMaintenance source head version bump) := by
  unfold openMaintenance
  split
  · next hopen =>
    simp only [ne_eq, decide_not, Bool.and_eq_true, Bool.not_eq_true', decide_eq_false_iff_not,
      Option.any_eq_true] at hopen
    obtain ⟨⟨policy, hpolicy, hm⟩, hbump⟩ := hopen
    exact .forget (inTurn_justified _ ⟨version, bump, policy, rfl, h, hbump, hpolicy, hm⟩)
  · exact .pure _

section Landing

variable {policy : RepositoryPolicy} (hseen : o.Seen past key)
  (hp : o.config.repository key.source = some policy)
include hseen hp

/-- A release is cut when the change of a job has landed on a branch that calls for one. -/
theorem releaseAs_justified {branch : String} {bump : Bump} (hl : Landed past key branch)
    (hr : policy.releaseFor branch = some bump) (canonicalId : String) :
    o.Justified past (o.releaseAs key.source branch bump canonicalId) := by
  refine Prog.Justified.bind (inTurn_justified _ trivial) fun reply asked h₁ hversion => ?_
  cases reply with
  | error e => exact .pure trivial
  | ok version =>
    refine Prog.Justified.bind (inTurn_justified _ trivial) fun reply known h₂ hhead => ?_
    cases reply with
    | error e => exact .pure trivial
    | ok head =>
      have hdue : o.Due (o.Seen known) known key.source head version bump :=
        ⟨key, policy, branch, hseen.mono (h₁.trans h₂), rfl, hp, hl.mono (h₁.trans h₂), hr,
          h₂ hversion, hhead⟩
      have htag := inTurn_justified (gitKey key.source)
        (c := .createTag key.source head version.tag) ⟨version, bump, rfl, hdue⟩
      refine Prog.Justified.bind htag fun reply tagged h₃ _ => ?_
      cases reply with
      | error e => exact .pure trivial
      | ok _ =>
        have hopen := openMaintenance_justified (hdue.mono (fun _ hk => hk.mono h₃) h₃)
        refine hopen.bind fun reply later _ => ?_
        split
        · exact .pure _
        · exact Justified.bind ⟨trivial, fun _ => trivial⟩ fun _ _ _ => .pure _

theorem onLanded_justified {branch : String} (hl : Landed past key branch) :
    o.Justified past (o.onLanded key policy branch) := by
  unfold onLanded
  split
  · exact .pure _
  · next bump hr =>
    refine (releaseAs_justified hseen hp hl hr _).bind fun reply _ _ => ?_
    split
    · exact .pure _
    · exact log_justified _ _ _

/-- An update is merged where its repository has updates merged, and has landed where the answer
says. -/
theorem mergeUpdate_justified {updateId target : String} (href : key.ref = .update updateId target)
    (hm : policy.merge = true) :
    o.Justified past (o.mergeUpdate key policy updateId target) := by
  have hmerge := inTurn_justified (gitKey key.source) (c := .merge key.source updateId)
    ⟨key, target, policy, hseen, rfl, href, hp, hm⟩
  refine Prog.Justified.bind hmerge fun reply merged h₁ hreply => ?_
  cases reply with
  | error e => exact log_justified _ _ _
  | ok branch =>
    refine Justified.bind (log_justified _ _ _) fun _ later h₂ => ?_
    exact onLanded_justified (hseen.mono (h₁.trans h₂)) hp (.merged href (h₂ hreply))

end Landing

/-! ### Reports of the executor -/

theorem land_justified (hseen : o.Seen past key) : o.Justified past (o.land key) := by
  unfold land
  split
  · exact .pure _
  · next policy hp =>
    split
    · next href =>
      split
      · next hm => exact mergeUpdate_justified hseen hp href hm
      · exact .pure _
    · next href => exact onLanded_justified hseen hp (.pushed href)

theorem verify_justified (hseen : o.Seen past key) : o.Justified past (o.verify key) := by
  refine Prog.Justified.bind (call_justified ⟨key, hseen, rfl, rfl⟩) fun reply later h _ => ?_
  split
  · exact land_justified (hseen.mono h)
  · exact log_justified _ _ _

theorem publish_justified (hseen : o.Seen past key) : o.Justified past (o.publish key) := by
  refine Prog.Justified.bind (call_justified hseen) fun reply later h _ => ?_
  split
  · split
    · exact Justified.bind (log_justified _ _ _) fun _ _ h' =>
        verify_justified (hseen.mono (h.trans h'))
    · exact verify_justified (hseen.mono h)
  · exact log_justified _ _ _

/-- A success is acted on only after a status of the job was read. -/
theorem onSuccess_justified (key : JobKey) : o.Justified past (o.onSuccess key) := by
  refine Prog.Justified.bind (status_justified key) fun r later _ hseen => ?_
  split
  · refine (record_justified key .success).bind fun b recorded h₁ => ?_
    split
    · exact (log_justified _ _ _).bind fun _ _ h₂ =>
        publish_justified ((hseen _ rfl).mono (h₁.trans h₂))
    · exact .pure _
  · exact .pure trivial

theorem onAborted_justified (key : JobKey) : o.Justified past (o.onAborted key) := by
  refine Prog.Justified.bind (status_justified key) fun r later _ _ => ?_
  split
  · exact .pure trivial
  · exact report_justified _ _ _ _

theorem onOutcome_justified (r : JobOutcome) : o.Justified past (o.onOutcome r) := by
  unfold onOutcome
  split
  · exact report_justified _ _ _ _
  · exact report_justified _ _ _ _
  · exact onSuccess_justified _
  · exact onAborted_justified _
  · exact report_justified _ _ _ _

end Handlers

/-- A release that somebody outside asked for; policy is not looked at for those. -/
def Duty.IsRelease : Duty → Prop
  | .occasion (.release ..) => True
  | _ => False

/-- The handler of any other duty can account for all that it does. -/
theorem Duty.justified (o : Orchestrator) {duty : Duty} (h : ¬ duty.IsRelease) :
    o.Justified ∅ (duty.program o) := by
  cases duty with
  | occasion x =>
    cases x with
    | update u message error => exact (onUpdate_justified _ _ _).bind fun _ _ _ => .pure _
    | push source ref commit => exact (onPush_justified _ _ _).bind fun _ _ _ => .pure _
    | delete source =>
      refine Justified.bind ?_ fun _ _ _ => .pure _
      exact (invalidate_justified source).bind fun _ _ _ => .pure _
    | outcome r => exact onOutcome_justified r
    | timeout key => exact report_justified _ _ _ _
    | release source branch bump => exact absurd trivial h
  | transition t => exact onTransition_justified t

/-! ## Runs -/

/-- What a task was told, as far as a journal goes. -/
def told (journal : List (Nat × Exchange interface)) (n : Nat) : Set (Exchange interface) :=
  {x | (n, x) ∈ journal}

/-- Policy has a job built, and somebody was told that there is something to build in its commit. -/
def Admissible (o : Orchestrator) (journal : List (Nat × Exchange interface)) (key : JobKey) :
    Prop :=
  o.Configured key ∧ ∃ n, Buildable (told journal n) key.source key.commit

/-- The call that a request makes, be it on the side. -/
def made? : interface.Request → Option Call
  | .inr (.call c) | .inr (.background c) => some c
  | _ => none

theorem Permits.allows {o : Orchestrator} {past : Set (Exchange interface)}
    {r : interface.Request} (h : o.Permits past r) {c : Call} (hc : made? r = some c) :
    o.Allows (o.Seen past) past c := by
  rcases r with r | (_ | _ | c' | _ | c')
  all_goals cases hc
  all_goals exact h

section Journal

variable {o : Orchestrator} {journal : List (Nat × Exchange interface)}
  (more : List (Nat × Exchange interface))

theorem told_subset_append (n : Nat) : told journal n ⊆ told (journal ++ more) n :=
  fun _ hx => List.mem_append_left more hx

theorem Admissible.append {key : JobKey} (h : o.Admissible journal key) :
    o.Admissible (journal ++ more) key := by
  obtain ⟨hc, n, hb⟩ := h
  exact ⟨hc, n, told_subset_append more n hb⟩

end Journal

namespace System

variable {o : Orchestrator} {s : System} {events : List Event}

/-- The store holds only jobs that policy has built. -/
def Admits (o : Orchestrator) (journal : List (Nat × Exchange interface)) (store : InProcess) :
    Prop :=
  store.Confined o.ledger.layout.pools fun job =>
    ∃ key : JobKey, key.text = job ∧ o.Admissible journal key

/-- What every run keeps in which nobody outside asks for a release. -/
structure Gated (o : Orchestrator) (s : System) : Prop where
  duties : ∀ task ∈ s.tasks, ¬ task.duty.IsRelease
  store : Admits o s.journal s.store
  /-- A job of which some task has read a status was in the store. -/
  seen : ∀ n key, o.Seen (told s.journal n) key → o.Admissible s.journal key
  /-- Each call was allowed by what was on record before. -/
  calls : ∀ before n x after, s.journal = before ++ (n, x) :: after → ∀ c,
    made? x.request = some c → o.Allows (o.Admissible before) (told before n) c

theorem Admits.append {journal : List (Nat × Exchange interface)} {store : InProcess}
    (h : Admits o journal store) (more : List (Nat × Exchange interface)) :
    Admits o (journal ++ more) store :=
  h.mono fun _ ⟨key, ht, hk⟩ => ⟨key, ht, hk.append more⟩

namespace Gated

theorem empty : Gated o {} where
  duties task h := absurd h List.not_mem_nil
  store := .empty
  seen n key := by
    rintro ⟨raw, h⟩
    exact absurd h List.not_mem_nil
  calls before n x after h := by simp at h

/-- One more task. -/
theorem spawn (hg : Gated o s) (duty : Duty) (hd : ¬ duty.IsRelease) (posted : List Transition) :
    Gated o { s with posted, tasks := s.tasks ++ [⟨duty, duty.program o⟩] } where
  duties := List.forall_mem_append.2 ⟨hg.duties, List.forall_mem_singleton.2 hd⟩
  store := hg.store
  seen := hg.seen
  calls := hg.calls

/-- A task that is told a status is told of a job in the store. -/
theorem seen_serve (hg : Gated o s) {n : Nat} {now : Int}
    {answer : (c : Call) → Except DomainError c.Answer} {r : interface.Request} {key : JobKey}
    {raw : String} (hraw : (⟨.inl (.store (.status
    (o.ledger.layout.status key))), .ok (some raw)⟩ : Exchange interface) =
      ⟨r, (s.serve n now answer r).1⟩) : o.Admissible s.journal key := by
  injection hraw with hr hx
  subst hr
  have hstatus : s.store.status? (o.ledger.layout.pools.status key.text) = some raw :=
    (Except.ok.inj (eq_of_heq hx)).symm
  obtain ⟨other, ht, hk⟩ := hg.store.of_status? hstatus
  rwa [← JobKey.text_inj ht]

section Request

variable {n : Nat} {duty : Duty} {r : interface.Request}
  {rest : interface.Reply r → Handler Unit} (hs : Sound o s) (hg : Gated o s)
  (h : s.tasks[n]? = some ⟨duty, .ask r rest⟩) (now : Int)
  (answer : (c : Call) → Except DomainError c.Answer)
include hs hg h

/-- A task asks for what policy allows by what it was told. -/
theorem permits : o.Permits (told s.journal n) r := by
  have hrest := Prog.Justified.of_path (hs.path n _ h)
    (duty.justified o (hg.duties _ (List.mem_of_getElem? h)))
  have htold : ∅ ∪ {x | x ∈ s.trace n} = told s.journal n := by
    ext x
    simp [told, mem_trace]
  rw [htold] at hrest
  exact hrest.1

/-- Only jobs that policy has built come into the store. -/
theorem store_serve : Admits o s.journal (s.serve n now answer r).2.store := by
  have hp := permits hs hg h
  rcases r with (c | t) | (_ | _ | c | _ | c)
  · refine hg.store.perform (hs.rule h).1.respects ?_ now
    cases c with
    | push queue pools job label ttl =>
      obtain ⟨key, ht, hc, hb⟩ := hp
      exact ⟨key, ht, hc, n, hb⟩
    | _ => trivial
  all_goals exact hg.store

theorem request : Gated o { (s.serve n now answer r).2 with
    tasks := s.tasks.set n ⟨duty, rest (s.serve n now answer r).1⟩
    journal := s.journal ++ [(n, ⟨r, (s.serve n now answer r).1⟩)] } where
  duties task ht := by
    rcases List.mem_or_eq_of_mem_set ht with ht | rfl
    · exact hg.duties task ht
    · exact hg.duties ⟨duty, .ask r rest⟩ (List.mem_of_getElem? h)
  store := (store_serve hs hg h now answer).append _
  seen m key := by
    rintro ⟨raw, hraw⟩
    refine Admissible.append _ ?_
    rcases List.mem_append.1 hraw with hold | hnew
    · exact hg.seen m key ⟨raw, hold⟩
    · exact hg.seen_serve (Prod.mk.inj (List.mem_singleton.1 hnew)).2
  calls before m x after hsplit c hc := by
    obtain rfl | ⟨after, last, rfl⟩ := after.eq_nil_or_concat'
    · -- The call is the one that is being made.
      obtain ⟨rfl, hlast⟩ := List.append_inj' hsplit rfl
      cases hlast
      exact ((permits hs hg h).allows hc).mono (hg.seen n) subset_rfl
    · rw [← List.cons_append, ← List.append_assoc] at hsplit
      exact hg.calls before m x after (List.append_inj' hsplit rfl).1 c hc

end Request

theorem step {t : System} {e : Event} (hs : Sound o s) (hg : Gated o s) (ht : Step o s e t)
    (he : ∀ source branch bump, e ≠ .begin (.release source branch bump)) : Gated o t := by
  cases ht with
  | stay => exact hg
  | begin x =>
    refine hg.spawn (.occasion x) ?_ s.posted
    cases x with
    | release source branch bump => exact absurd rfl (he source branch bump)
    | _ => exact id
  | @take t posted h => exact hg.spawn (.transition t) id posted
  | request h => exact hg.request hs h _ _
  | advance ms => exact ⟨hg.duties, hg.store.advance ms, hg.seen, hg.calls⟩

end Gated

/-- Nothing happens that policy does not allow. After every run in which nobody outside asks for a
release, whatever the systems around answer and whatever the executor reports about whichever job,
the store holds only jobs of active repositories, in branches that these have built, and with
something to build as was reported before. And every call was allowed by what was on record
before. -/
theorem policy_gates (o : Orchestrator) {events : List Event}
    (hno : ∀ source branch bump, .begin (.release source branch bump) ∉ events) :
    let s := ({} : System).run o events
    s.store.Confined o.ledger.layout.pools
        (fun job => ∃ key : JobKey, key.text = job ∧ o.Admissible s.journal key) ∧
      ∀ before n x after, s.journal = before ++ (n, x) :: after → ∀ c,
        made? x.request = some c → o.Allows (o.Admissible before) (told before n) c := by
  suffices h : Gated o (({} : System).run o events) from ⟨h.store, h.calls⟩
  induction events using List.reverseRecOn with
  | nil => exact .empty
  | append_singleton events e ih =>
    rw [run_concat]
    have hg := ih fun source branch bump hm =>
      hno source branch bump (List.mem_append_left _ hm)
    refine hg.step (sound_run o events) (step_next o _ e) ?_
    rintro source branch bump rfl
    exact hno source branch bump (List.mem_append_right _ List.mem_cons_self)

/-- An orchestrator of one repository, which merges updates and has releases cut from `m`. -/
def releasing : Orchestrator where
  ledger := ⟨⟨"builds"⟩, 1000⟩
  config := { repositories := [{
    source := ⟨"g", "w"⟩
    merge := true
    release := some .minor
    releaseBranches := (BranchPattern.parse? "m").toList
    maintenanceBranches := true }] }
  logBase := ""

/-- An update is built, merged and released. -/
def releasedOnce : List Event :=
  .begin (opened "1") :: steps 0 6 ++ .take :: steps 1 2 ++ .take :: steps 2 6 ++
    .begin (.outcome ⟨.started, Ledger.rival "1"⟩) :: steps 3 4 ++
    .begin (.outcome ⟨.success, Ledger.rival "1"⟩) :: steps 4 24

/-- The branch for later patches is opened, and so was allowed. -/
theorem policy_gates_released :
    let s := ({} : System).run releasing releasedOnce
    (.createBranch ⟨"g", "w"⟩ (Ledger.rival "1").commit "release/0.0" ∈
        s.journal.filterMap fun entry => made? entry.2.request) ∧
      (∀ source branch bump, .begin (.release source branch bump) ∉ releasedOnce) ∧
      s.store.Confined releasing.ledger.layout.pools (fun job => ∃ key : JobKey,
        key.text = job ∧ releasing.Admissible s.journal key) ∧
      ∀ before n x after, s.journal = before ++ (n, x) :: after → ∀ c,
        made? x.request = some c →
          releasing.Allows (releasing.Admissible before) (told before n) c := by
  have hno : ∀ source branch bump, .begin (.release source branch bump) ∉ releasedOnce := by
    simp [releasedOnce, steps, opened]
  exact ⟨by decide +kernel, hno, policy_gates releasing hno⟩

end System

end BuildQueue.Orchestrator
