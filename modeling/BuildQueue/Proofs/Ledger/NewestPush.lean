import BuildQueue.Proofs.Ledger.PushStages
import Mathlib.Data.List.Infix

/-!
# The newest push

Clients push jobs and do nothing else, and no status expires. Then the job of the last push on a
queue is in the end the only one of the queue, ready and queued, exactly if no client was still
about to cancel that very job when it was pushed (`System.newest_push`); else it is cancelled and
gone.
-/

namespace BuildQueue.Ledger

variable {layout : KeyLayout}

/-- The program cancels a job, if it finds the job waiting. -/
def Cancels (layout : KeyLayout) (key : JobKey) : Prog interface Unit → Prop
  | .ask (.store (.status name)) next =>
    name = layout.status key ∧ Cancels layout key (next (.ok (some QueueState.queued.name)))
  | .ask (.store (.swap _ change _)) _ =>
    change.job = key.text ∧ change.next = QueueState.cancelled.name
  | .ask (.post _) next => Cancels layout key (next ())
  | _ => False

instance Cancels.decidable (key : JobKey) :
    (p : Prog interface Unit) → Decidable (Cancels layout key p)
  | .ask (.store (.status name)) next =>
    have := Cancels.decidable key (next (.ok (some QueueState.queued.name)))
    inferInstanceAs (Decidable (name = layout.status key ∧ Cancels layout key (next _)))
  | .ask (.store (.swap ..)) _ => inferInstanceAs (Decidable (_ ∧ _))
  | .ask (.post _) next => Cancels.decidable key (next ())
  | .ask (.store (.push ..)) _ => .isFalse id
  | .ask (.store (.start ..)) _ => .isFalse id
  | .ask (.store (.pool ..)) _ => .isFalse id
  | .done _ => .isFalse id

theorem cancels_supersede {old key : JobKey} {ttl : Nat} :
    Cancels layout key (supersede ⟨layout, ttl⟩ (some old) .cancelled) ↔ old = key := by
  rw [supersede_cancelled]
  simp only [Cancels, if_true]
  constructor
  · rintro ⟨h, -⟩
    exact layout.status_inj h
  · rintro rfl
    exact ⟨rfl, rfl, rfl⟩

theorem cancels_program {key : JobKey} (stage : Stage) :
    Cancels layout key (stage.program layout) ↔ stage.victim = some key := by
  cases stage with
  | idle => simp [Stage.program, Stage.victim, Cancels]
  | asking k ttl =>
    rw [Stage.program, program_push]
    simp [Stage.victim, Cancels]
  | posting t old ttl =>
    cases old with
    | none =>
      show False ↔ none = some key
      simp
    | some old =>
      show Cancels layout key (supersede ⟨layout, ttl⟩ (some old) .cancelled) ↔ some old = some key
      rw [cancels_supersede, Option.some.injEq]
  | reading old ttl =>
    show Cancels layout key (supersede ⟨layout, ttl⟩ (some old) .cancelled) ↔ some old = some key
    rw [cancels_supersede, Option.some.injEq]
  | swapping old ttl =>
    show (old.text = key.text ∧ _ = _) ↔ some old = some key
    rw [Option.some.injEq]
    exact ⟨fun h => JobKey.text_inj h.1, fun h => ⟨congrArg JobKey.text h, rfl⟩⟩
  | reporting t => simp [Stage.program, Stage.victim, Cancels]

/-- Every queue has one job at most, and that one is ready and queued. -/
structure Lined (layout : KeyLayout) (s : InProcess) : Prop where
  free : ∀ job, ¬ s.InPool layout.pools.active job
  queue : ∀ q, s.queue q = [] ∨ ∃ key : JobKey, s.queue q = [key.text] ∧ layout.queue key = q ∧
    s.InPool layout.pools.ready key.text ∧
    s.status? (layout.status key) = some QueueState.queued.name

namespace Lined

variable {s t : InProcess} {key : JobKey} {q : String}

theorem empty : Lined layout {} where
  free job := InProcess.inPool_empty _ job
  queue q := .inl (by simp [InProcess.queue])

theorem of_mem (h : Lined layout s) (hm : key.text ∈ s.queue q) :
    s.queue q = [key.text] ∧ layout.queue key = q ∧ s.InPool layout.pools.ready key.text ∧
      s.status? (layout.status key) = some QueueState.queued.name := by
  rcases h.queue q with hnil | ⟨other, hq, hrest⟩
  · rw [hnil] at hm
    cases hm
  · rw [hq, List.mem_singleton] at hm
    rw [hq, JobKey.text_inj hm]
    exact ⟨rfl, hrest⟩

theorem named (h : Lined layout s) : ∀ q, ∀ job ∈ s.queue q, ∃ key : JobKey, key.text = job := by
  intro q job hm
  rcases h.queue q with hnil | ⟨key, hq, -⟩
  · rw [hnil] at hm
    cases hm
  · rw [hq, List.mem_singleton] at hm
    exact ⟨key, hm.symm⟩

theorem push (h : Lined layout s) (hq : key.text ∉ s.queue (layout.queue key)) {label : String}
    {ttl : Nat} {now : Int}
    (ht : (s.push (layout.queue key) layout.pools key.text label ttl now).2.Unexpired) :
    Lined layout (s.push (layout.queue key) layout.pools key.text label ttl now).2 where
  free job hj := h.free job ((s.inPool_active_push _ _ _ _ hq layout.pools_distinct job).1 hj)
  queue q := by
    have hrun := s.runningIn_of_free (layout.queue key) h.free
    have httl := InProcess.Unexpired.ttl_ne_zero_of_push _ _ _ _ _ hq ht
    by_cases e : q = layout.queue key
    · subst e
      refine .inr ⟨key, ?_, rfl, ?_, ?_⟩
      · rw [s.queue_push _ _ _ _ hq, if_pos rfl, hrun]
        rfl
      · exact (s.inPool_ready_push _ _ _ _ hq _).2 (.inr ⟨hrun, rfl⟩)
      · rw [s.status?_push _ _ _ _ hq, KeyLayout.status, if_pos rfl, if_neg httl]
    · rw [s.queue_push _ _ _ _ hq, if_neg e]
      refine (h.queue q).imp_right ?_
      rintro ⟨other, ho, rfl, hr, hs⟩
      refine ⟨other, ho, rfl, (s.inPool_ready_push _ _ _ _ hq _).2 (.inl ⟨fun hm => ?_, hr⟩), ?_⟩
      · exact e (h.of_mem (List.mem_filter.1 hm).1).2.1
      · rw [s.status?_push _ _ _ _ hq, ← KeyLayout.status,
          if_neg fun e' => e (congrArg layout.queue (layout.status_inj e')), hs]

/-- A job is cancelled, whether or not it is still in its queue. -/
theorem cancel (h : Lined layout s) (old : JobKey) (text : String) (ttl : Nat) (now : Int) :
    Lined layout ((s.setStatus (layout.status old) text ttl).retire (layout.queue old)
      layout.pools old.text now).2 where
  free job hj :=
    h.free job ((InProcess.inPool_active_retire _ _ _ _ layout.pools_distinct job).1 hj).2
  queue q := by
    have hkeep : ∀ other : JobKey, other ≠ old → s.InPool layout.pools.ready other.text →
        s.status? (layout.status other) = some QueueState.queued.name →
        ((s.setStatus (layout.status old) text ttl).retire (layout.queue old) layout.pools old.text
            now).2.InPool layout.pools.ready other.text ∧
          ((s.setStatus (layout.status old) text ttl).retire (layout.queue old) layout.pools
            old.text now).2.status? (layout.status other) = some QueueState.queued.name := by
      intro other hne hr hs
      have htext : other.text ≠ old.text := fun e => hne (JobKey.text_inj e)
      refine ⟨(InProcess.inPool_ready_retire _ _ _ _ layout.pools_distinct _).2
        (.inl ⟨htext, hr⟩), ?_⟩
      rw [InProcess.status?_retire, ← hs]
      exact s.status?_setStatus_of_ne _ htext _ _
    rw [InProcess.queue_retire, InProcess.queue_setStatus]
    split
    · next e =>
      subst e
      rcases h.queue (layout.queue old) with hnil | ⟨other, ho, hh, hr, hs⟩
      · exact .inl (by rw [hnil]; rfl)
      · rw [ho]
        by_cases hne : other = old
        · exact .inl (by simp [hne])
        · have htext : other.text ≠ old.text := fun e => hne (JobKey.text_inj e)
          exact .inr ⟨other, by simp [htext], hh, hkeep other hne hr hs⟩
    · next e =>
      refine (h.queue q).imp_right ?_
      rintro ⟨other, ho, rfl, hr, hs⟩
      exact ⟨other, ho, rfl, hkeep other (fun e' => e (e' ▸ rfl)) hr hs⟩

theorem advance (h : Lined layout s) {ms : Nat} (ht : (s.advance ms).Unexpired) :
    Lined layout (s.advance ms) where
  free := h.free
  queue q := by
    refine (h.queue q).imp_right ?_
    rintro ⟨other, ho, hh, hr, hs⟩
    exact ⟨other, ho, hh, hr, by rw [ht.status?_advance, hs]⟩

theorem step (h : Lined layout s) {stage stage' : Stage} (hs : stage.Step layout s stage' t)
    (ht : t.Unexpired) : Lined layout t := by
  cases hs with
  | push hq _ => exact h.push hq ht
  | cancel _ => exact h.cancel _ _ _ _
  | _ => exact h

end Lined

variable {Client : Type} [DecidableEq Client]

/-- What becomes of a job when nothing more is pushed on its queue. It is there and `pending` says
whether somebody is about to cancel it, or it has been cancelled. -/
def Fate (layout : KeyLayout) (key : JobKey) (pending : Prop) (s : InProcess)
    (running : Client → Prog interface Unit) : Prop :=
  (s.queue (layout.queue key) = [key.text] ∧
      ((∃ client, Cancels layout key (running client)) ↔ pending)) ∨
    (pending ∧ s.queue (layout.queue key) = [] ∧
      s.status? (layout.status key) = some QueueState.cancelled.name)

/-- A client that goes from one stage to another changes nothing for a job that it cancels at both
or at neither of them. -/
theorem exists_cancels_update {key : JobKey} {running : Client → Prog interface Unit}
    {client : Client} {stage stage' : Stage} (h : running client = stage.program layout)
    (hv : stage'.victim = some key ↔ stage.victim = some key) :
    (∃ c, Cancels layout key (Function.update running client (stage'.program layout) c)) ↔
      ∃ c, Cancels layout key (running c) := by
  refine exists_congr fun c => ?_
  by_cases hc : c = client
  · subst hc
    rw [Function.update_self, h, cancels_program, cancels_program, hv]
  · rw [Function.update_of_ne hc]

namespace Fate

variable {key : JobKey} {pending : Prop} {s t : InProcess} {running : Client → Prog interface Unit}
  {client : Client} {stage stage' : Stage}

theorem keep (h : Fate layout key pending s running) (hst : running client = stage.program layout)
    (hv : stage'.victim = some key ↔ stage.victim = some key)
    (hq : t.queue (layout.queue key) = s.queue (layout.queue key))
    (hs : t.status? (layout.status key) = s.status? (layout.status key)) :
    Fate layout key pending t (Function.update running client (stage'.program layout)) := by
  unfold Fate
  rw [exists_cancels_update hst hv, hq, hs]
  exact h

omit [DecidableEq Client] in
/-- A job that is no longer queued has been cancelled. -/
theorem gone (h : Fate layout key pending s running) (hl : Lined layout s)
    (hs : s.status? (layout.status key) ≠ some QueueState.queued.name) :
    pending ∧ s.queue (layout.queue key) = [] ∧
      s.status? (layout.status key) = some QueueState.cancelled.name := by
  rcases h with ⟨hq, -⟩ | hgone
  · exact absurd (hl.of_mem (by rw [hq]; exact List.mem_singleton_self _)).2.2.2 hs
  · exact hgone

/-- A client lets a job be that it finds no longer waiting. -/
theorem spare (h : Fate layout key pending s running) (hl : Lined layout s)
    (hst : running client = stage.program layout) {old : JobKey} (hv : stage.victim = some old)
    (hno : s.status? (layout.status old) ≠ some QueueState.queued.name) :
    Fate layout key pending s (Function.update running client (Stage.idle.program layout)) := by
  by_cases e : old = key
  · subst e
    exact .inr (h.gone hl hno)
  · refine h.keep hst ?_ rfl rfl
    rw [hv]
    simp [Stage.victim, e]

/-- Another job is pushed on another queue. -/
theorem push (h : Fate layout key pending s running) (hl : Lined layout s) {other : JobKey}
    {old : Option JobKey} {t : Transition} {ttl : Nat}
    (hst : running client = (Stage.asking other ttl).program layout)
    (hq : other.text ∉ s.queue (layout.queue other))
    (hold : (s.queue (layout.queue other)).getLast? = old.map JobKey.text)
    (hne : layout.queue other ≠ layout.queue key) (now : Int) :
    Fate layout key pending
      (s.push (layout.queue other) layout.pools other.text other.canonicalId ttl now).2
      (Function.update running client ((Stage.posting t old ttl).program layout)) := by
  refine h.keep hst ?_ ?_ ?_
  · refine iff_of_false (fun e => hne ?_) (by simp [Stage.victim])
    obtain rfl : old = some key := e
    exact (hl.of_mem (List.mem_of_getLast? hold)).2.1.symm
  · rw [s.queue_push _ _ _ _ hq, if_neg hne.symm]
  · rw [s.status?_push _ _ _ _ hq, ← KeyLayout.status,
      if_neg fun e => hne (congrArg layout.queue (layout.status_inj e)).symm]

omit [DecidableEq Client] in
theorem filter_queue (h : Fate layout key pending s running) {old : JobKey} (hne : old ≠ key) :
    (s.queue (layout.queue key)).filter (· ≠ old.text) = s.queue (layout.queue key) := by
  have htext : key.text ≠ old.text := fun e => hne (JobKey.text_inj e).symm
  rcases h with ⟨hq, -⟩ | ⟨-, hnil, -⟩
  · rw [hq]
    simp [htext]
  · rw [hnil]
    rfl

/-- A client cancels this job or another one. -/
theorem cancel (h : Fate layout key pending s running) {old : JobKey} {t : Transition} {ttl : Nat}
    (hst : running client = (Stage.swapping old ttl).program layout)
    (hyes : s.status? (layout.status old) = some QueueState.queued.name) (httl : ttl ≠ 0)
    (now : Int) :
    Fate layout key pending
      ((s.setStatus (layout.status old) QueueState.cancelled.name ttl).retire (layout.queue old)
        layout.pools old.text now).2
      (Function.update running client ((Stage.reporting t).program layout)) := by
  by_cases e : old = key
  · subst e
    rcases h with ⟨hq, hiff⟩ | ⟨-, -, hcancelled⟩
    · refine .inr ⟨hiff.1 ⟨client, ?_⟩, ?_, ?_⟩
      · rw [hst, cancels_program]
        rfl
      · rw [InProcess.queue_retire, if_pos rfl, InProcess.queue_setStatus, hq]
        simp
      · rw [InProcess.status?_retire, InProcess.status?_setStatus, if_pos rfl, if_neg httl]
    · rw [hcancelled] at hyes
      exact absurd (Option.some.inj hyes) (by decide)
  · refine h.keep hst (by simp [Stage.victim, e]) ?_ ?_
    · rw [InProcess.queue_retire, InProcess.queue_setStatus, InProcess.queue_setStatus]
      split
      · next hqueue =>
        rw [← hqueue]
        exact h.filter_queue e
      · rfl
    · rw [InProcess.status?_retire]
      exact s.status?_setStatus_of_ne _ (fun e' => e (JobKey.text_inj e').symm) _ _

theorem step (h : Fate layout key pending s running) (hl : Lined layout s)
    (hst : running client = stage.program layout) (hs : stage.Step layout s stage' t)
    (ht : t.Unexpired)
    (hover : ∀ other ttl, stage = .asking other ttl → layout.queue other ≠ layout.queue key) :
    Fate layout key pending t (Function.update running client (stage'.program layout)) := by
  cases hs with
  | idle => exact h.keep hst Iff.rfl rfl rfl
  | duplicate _ => exact h.keep hst Iff.rfl rfl rfl
  | push hq hold => exact h.push hl hst hq hold (hover _ _ rfl) _
  | post => exact h.keep hst Iff.rfl rfl rfl
  | turn => exact h.keep hst Iff.rfl rfl rfl
  | found _ => exact h.keep hst Iff.rfl rfl rfl
  | missed hno => exact h.spare hl hst rfl hno
  | cancel hyes => exact h.cancel hst hyes ht.of_retire.ttl_ne_zero _
  | refuse hno => exact h.spare hl hst rfl hno
  | report => exact h.keep hst Iff.rfl rfl rfl

end Fate

/-- An event by which clients do nothing but push. -/
def Event.PushOnly : Event Client → Prop
  | .call _ _ op => ∃ key, op = .push key
  | .step _ _ => True
  | .advance _ => True

namespace System

/-- The next step of the client asks the store to push the job. -/
def AboutToPush (layout : KeyLayout) (s : System Client) (client : Client) (key : JobKey) : Prop :=
  ∃ ttl, s.running client = (Operation.push key).program ⟨layout, ttl⟩

/-- The queue on which the next request of a program pushes. -/
def target? : Prog interface Unit → Option String
  | .ask (.store (.push queue ..)) _ => some queue
  | _ => none

/-- The clients of the system push and do nothing else. -/
structure Pushing (layout : KeyLayout) (s : System Client) : Prop where
  lined : Lined layout s.store
  staged : ∀ client, ∃ stage : Stage, s.running client = stage.program layout

namespace Pushing

variable {s : System Client} {key : JobKey} {pending : Prop}

omit [DecidableEq Client] in
theorem start : Pushing layout ({} : System Client) :=
  ⟨Lined.empty, fun _ => ⟨.idle, rfl⟩⟩

theorem staged_update (h : s.Pushing layout) (client : Client) (stage : Stage) :
    ∀ c, ∃ stage' : Stage, Function.update s.running client (stage.program layout) c =
      stage'.program layout := by
  rw [Function.forall_update_iff s.running fun _ p => ∃ stage' : Stage, p = stage'.program layout]
  exact ⟨⟨stage, rfl⟩, fun c _ => h.staged c⟩

theorem next (h : s.Pushing layout) {e : Event Client} (he : e.PushOnly)
    (hu : (s.next layout e).store.Unexpired) : (s.next layout e).Pushing layout := by
  cases e with
  | call client ttl op =>
    obtain ⟨key, rfl⟩ := he
    unfold System.next
    dsimp only
    split
    · exact ⟨h.lined, h.staged_update client (.asking key ttl)⟩
    · exact h
  | step client now =>
    obtain ⟨stage, hst⟩ := h.staged client
    obtain ⟨stage', hstep, hrun⟩ := next_stage h.lined.free h.lined.named hst now
    refine ⟨h.lined.step hstep hu, ?_⟩
    rw [hrun]
    exact h.staged_update client stage'
  | advance ms => exact ⟨h.lined.advance hu, h.staged⟩

/-- An event that pushes nothing on the queue of a job. -/
theorem fate (h : s.Pushing layout) (hf : Fate layout key pending s.store s.running)
    {e : Event Client} (he : e.PushOnly) (hu : (s.next layout e).store.Unexpired)
    (hover : ∀ client now other, e = .step client now → s.AboutToPush layout client other →
      layout.queue other ≠ layout.queue key) :
    Fate layout key pending (s.next layout e).store (s.next layout e).running := by
  cases e with
  | call client ttl op =>
    obtain ⟨other, rfl⟩ := he
    unfold System.next
    dsimp only
    split
    · next hidle =>
      have hst : s.running client = Stage.idle.program layout := hidle
      show Fate layout key pending s.store
        (Function.update s.running client ((Stage.asking other ttl).program layout))
      exact hf.keep hst Iff.rfl rfl rfl
    · exact hf
  | step client now =>
    obtain ⟨stage, hst⟩ := h.staged client
    obtain ⟨stage', hstep, hrun⟩ := next_stage h.lined.free h.lined.named hst now
    rw [hrun]
    refine hf.step h.lined hst hstep hu fun other ttl hask => ?_
    refine hover client now other rfl ⟨ttl, ?_⟩
    rw [hst, hask]
    rfl
  | advance ms =>
    unfold Fate
    rw [show (s.next layout (.advance ms)).store = s.store.advance ms from rfl,
      InProcess.Unexpired.status?_advance hu]
    exact hf

/-- The push itself leaves a job that somebody is about to cancel exactly if it was so before. -/
theorem fate_of_push (h : s.Pushing layout) {client : Client}
    (hp : s.AboutToPush layout client key) (now : Int) :
    Fate layout key (∃ c, Cancels layout key (s.running c))
      (s.next layout (.step client now)).store (s.next layout (.step client now)).running := by
  obtain ⟨ttl, hask⟩ := hp
  have hst : s.running client = (Stage.asking key ttl).program layout := hask
  obtain ⟨stage', hstep, hrun⟩ := next_stage h.lined.free h.lined.named hst now
  rw [hrun]
  generalize (s.next layout (.step client now)).store = t at hstep ⊢
  cases hstep with
  | duplicate hq => exact .inl ⟨(h.lined.of_mem hq).1, exists_cancels_update hst Iff.rfl⟩
  | @push _ _ _ old now hq hold =>
    refine .inl ⟨?_, exists_cancels_update hst (iff_of_false (fun e => hq ?_) (by
      simp [Stage.victim]))⟩
    · rw [s.store.queue_push _ _ _ _ hq, if_pos rfl, s.store.runningIn_of_free _ h.lined.free]
      rfl
    · obtain rfl : old = some key := e
      exact List.mem_of_getLast? hold

end Pushing

/-- A run in which clients push and do nothing else, and no status expires. -/
structure PushRun (layout : KeyLayout) (events : List (Event Client)) : Prop where
  only : ∀ e ∈ events, e.PushOnly
  unexpired : ∀ part, part <+: events → (run layout {} part).store.Unexpired

/-- After the events `before`, the step of the client pushes the job, and among the events `after`
there is no other push on the job's queue. -/
structure LastPush (layout : KeyLayout) (before : List (Event Client)) (client : Client) (now : Int)
    (after : List (Event Client)) (key : JobKey) : Prop where
  push : (run layout {} before).AboutToPush layout client key
  last : ∀ middle c now' rest other, after = middle ++ .step c now' :: rest →
    (run layout {} (before ++ .step client now :: middle)).AboutToPush layout c other →
    layout.queue other ≠ layout.queue key

/-- The job is alone in its queue, ready and queued. -/
structure Kept (layout : KeyLayout) (key : JobKey) (s : InProcess) : Prop where
  queue : s.queue (layout.queue key) = [key.text]
  ready : s.InPool layout.pools.ready key.text
  status : s.status? (layout.status key) = some QueueState.queued.name

/-- The job is cancelled, and its queue is empty. -/
structure Lost (layout : KeyLayout) (key : JobKey) (s : InProcess) : Prop where
  queue : s.queue (layout.queue key) = []
  status : s.status? (layout.status key) = some QueueState.cancelled.name

variable {before after : List (Event Client)} {client : Client} {now : Int} {key : JobKey}

theorem PushRun.pushing {events : List (Event Client)} (h : PushRun layout events) :
    (run layout ({} : System Client) events).Pushing layout := by
  refine run_induction .start fun part e hp ih => ih.next (h.only e (hp.subset (by simp))) ?_
  rw [← run_concat]
  exact h.unexpired _ hp

/-- From the last push on, the fate of its job is settled by who was about to cancel it. -/
theorem LastPush.fate (h : LastPush layout before client now after key)
    (hrun : PushRun layout (before ++ .step client now :: after)) :
    Fate layout key (∃ c, Cancels layout key ((run layout {} before).running c))
      (run layout {} (before ++ .step client now :: after)).store
      (run layout {} (before ++ .step client now :: after)).running := by
  have hsplit : ∀ rest : List (Event Client), run layout {} (before ++ .step client now :: rest) =
      run layout ((run layout {} before).next layout (.step client now)) rest := fun rest =>
    List.foldl_append
  have hbefore : (run layout {} before).Pushing layout := by
    refine PushRun.pushing ⟨fun e he => hrun.only e (List.mem_append_left _ he), fun part hp => ?_⟩
    exact hrun.unexpired part (hp.trans (List.prefix_append _ _))
  have hpart : ∀ part, part <+: after → (run layout
      ((run layout {} before).next layout (.step client now)) part).store.Unexpired := by
    intro part hp
    rw [← hsplit]
    refine hrun.unexpired _ ((List.prefix_append_right_inj _).2 ?_)
    exact List.cons_prefix_cons.2 ⟨rfl, hp⟩
  rw [hsplit]
  refine (run_induction (P := fun s : System Client => s.Pushing layout ∧
    Fate layout key (∃ c, Cancels layout key ((run layout {} before).running c)) s.store s.running)
    ⟨hbefore.next (e := .step client now) trivial (hpart [] (List.nil_prefix)),
      hbefore.fate_of_push h.push now⟩ ?_).2
  rintro middle e ⟨rest, rfl⟩ ⟨hp, hf⟩
  have hu := hpart (middle ++ [e]) (List.prefix_append _ _)
  rw [run_concat] at hu
  have he : e.PushOnly := hrun.only e (by simp)
  refine ⟨hp.next he hu, hp.fate hf he hu ?_⟩
  rintro c now' other rfl habout
  rw [← hsplit] at habout
  exact h.last middle c now' rest other (by simp) habout

/-- Clients push and do nothing else, and no status expires. When all calls have returned, the job
that was pushed last on a queue is kept if no client was about to cancel this very job when it was
pushed, and it is lost if one was. -/
theorem newest_push (h : LastPush layout before client now after key)
    (hrun : PushRun layout (before ++ .step client now :: after))
    (hdone : ∀ c, (run layout {} (before ++ .step client now :: after)).idle c = true) :
    ((¬ ∃ c, Cancels layout key ((run layout {} before).running c)) →
        Kept layout key (run layout {} (before ++ .step client now :: after)).store) ∧
      ((∃ c, Cancels layout key ((run layout {} before).running c)) →
        Lost layout key (run layout {} (before ++ .step client now :: after)).store) := by
  have hlined := hrun.pushing.lined
  rcases h.fate hrun with ⟨hq, hiff⟩ | ⟨hpending, hq, hs⟩
  · have hnone : ¬ ∃ c, Cancels layout key ((run layout {} before).running c) := by
      rw [← hiff]
      rintro ⟨c, hc⟩
      rw [running_of_idle (hdone c)] at hc
      exact hc
    have hmem : key.text ∈ (run layout {} (before ++ .step client now :: after)).store.queue
        (layout.queue key) := by rw [hq]; exact List.mem_singleton_self _
    obtain ⟨-, -, hr, hs⟩ := hlined.of_mem hmem
    exact ⟨fun _ => ⟨hq, hr, hs⟩, fun hp => absurd hp hnone⟩
  · exact ⟨fun hnone => absurd hpending hnone, fun _ => ⟨hq, hs⟩⟩

/-- A client pushes a job, which is put out, and another client pushes it again before the first one
has cancelled it. -/
def raced : List (Event Bool) :=
  [.call true 50 (.push (rival "1")), .step true 0, .step true 0,
    .call true 50 (.push (rival "2")), .step true 1, .step true 1,
    .call false 50 (.push (rival "1")), .step false 2, .step false 2,
    .step true 3, .step true 3, .step true 3,
    .step false 4, .step false 4, .step false 4]

/-- The job that was pushed last is not in its queue, though only pushes were made, no status has
expired and all calls have returned. -/
theorem newest_push_raced :
    (∀ e ∈ raced, e.PushOnly) ∧ (run ⟨"b"⟩ {} raced).store.Unexpired ∧
      (∀ c, (run ⟨"b"⟩ {} raced).idle c = true) ∧
      (run ⟨"b"⟩ {} raced).store.queue (KeyLayout.queue ⟨"b"⟩ (rival "1")) = [] :=
  ⟨by simp [raced, Event.PushOnly], by decide +kernel⟩

omit [DecidableEq Client] in
theorem AboutToPush.target?_eq {s : System Client} (h : s.AboutToPush layout client key) :
    target? (s.running client) = some (layout.queue key) := by
  obtain ⟨ttl, h⟩ := h
  rw [h]
  rfl

theorem aboutToPush_call {s : System Client} (h : s.idle client = true) (ttl : Nat) :
    (s.next layout (.call client ttl (.push key))).AboutToPush layout client key := by
  refine ⟨ttl, ?_⟩
  rw [next, running_of_idle h]
  exact Function.update_self ..

/-- The run `raced` up to its last push, in the place of which another job is pushed. -/
def begun : List (Event Bool) := raced.take 6 ++ [.call false 50 (.push (rival "3"))]

theorem newest_push_overlapping : Kept ⟨"b"⟩ (rival "3")
    (run ⟨"b"⟩ {} (begun ++ Event.step false 2 :: raced.drop 8)).store := by
  have hall : (run ⟨"b"⟩ {} (raced.take 6)).idle false = true ∧
      (¬ ∃ c, Cancels ⟨"b"⟩ (rival "3") ((run ⟨"b"⟩ {} begun).running c)) ∧
      (∀ c, (run ⟨"b"⟩ {} (begun ++ Event.step false 2 :: raced.drop 8)).idle c = true) ∧
      (∀ n < (raced.drop 8).length, ∀ c, target? ((run ⟨"b"⟩ {}
        (begun ++ Event.step false 2 :: (raced.drop 8).take n)).running c) = none) ∧
      ∀ part ∈ (begun ++ Event.step false 2 :: raced.drop 8).inits,
        (run ⟨"b"⟩ {} part).store.Unexpired := by decide +kernel
  obtain ⟨hidle, hspared, hdone, hlast, hunexpired⟩ := hall
  have hpush : LastPush ⟨"b"⟩ begun false 2 (raced.drop 8) (rival "3") := by
    refine ⟨?_, fun middle c now' rest other hsplit habout => ?_⟩
    · rw [begun, run_concat]
      exact aboutToPush_call hidle 50
    · have hmiddle : (raced.drop 8).take middle.length = middle := by rw [hsplit, List.take_left]
      have hnone := hlast middle.length (by simp [hsplit]) c
      rw [hmiddle, habout.target?_eq] at hnone
      cases hnone
  have hrun : PushRun ⟨"b"⟩ (begun ++ Event.step false 2 :: raced.drop 8) := by
    refine ⟨by simp [begun, raced, Event.PushOnly], fun part hp => ?_⟩
    exact hunexpired part ((List.mem_inits _ _).2 hp)
  exact (newest_push hpush hrun hdone).1 hspared

end System

end BuildQueue.Ledger
