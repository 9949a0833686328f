import BuildQueue.Proofs.Ledger.Paths

/-!
# The stages of a push

Where no job runs, a push asks the store, posts, and cancels the job it has put out, if any: it
reads that job's status, and if it is still that of a waiting job it swaps it and posts again.
`Stage` is how far a push has come, and `Stage.Step` says all that its next step can do
(`System.next_stage`).
-/

namespace BuildQueue.Ledger

/-- How far a push has come in a store where no job runs. -/
inductive Stage where
  | idle
  /-- It is about to ask the store. -/
  | asking (key : JobKey) (ttl : Nat)
  /-- The store has taken the job and put out another one, perhaps. -/
  | posting (t : Transition) (old : Option JobKey) (ttl : Nat)
  | reading (old : JobKey) (ttl : Nat)
  /-- The old job was found waiting. -/
  | swapping (old : JobKey) (ttl : Nat)
  | reporting (t : Transition)

/-- Posts a transition if the store has made it. -/
def report (t : Transition) : Result SwapReply → Prog interface Unit
  | .ok (.applied _) => .ask (.post t) fun _ => .done ()
  | _ => .done ()

namespace Stage

variable {layout : KeyLayout}

/-- What is left of the push. -/
def program (layout : KeyLayout) : Stage → Prog interface Unit
  | idle => .done ()
  | asking key ttl => (Operation.push key).program ⟨layout, ttl⟩
  | posting t old ttl => .ask (.post t) fun _ => supersede ⟨layout, ttl⟩ old .cancelled
  | reading old ttl => supersede ⟨layout, ttl⟩ (some old) .cancelled
  | swapping old ttl =>
    .ask (.store (.swap layout.pools (swapOf ⟨layout, ttl⟩ old .queued .cancelled) ttl))
      (report ⟨old, .cancelled, some .queued, true⟩)
  | reporting t => .ask (.post t) fun _ => .done ()

/-- The job that the push is about to cancel. -/
def victim : Stage → Option JobKey
  | posting _ old _ => old
  | reading old _ => some old
  | swapping old _ => some old
  | _ => none

/-- All that the next step of a push can do to its stage and to the store. -/
inductive Step (layout : KeyLayout) (s : InProcess) : Stage → Stage → InProcess → Prop where
  | idle : Step layout s .idle .idle s
  | duplicate {key : JobKey} {ttl : Nat} (h : key.text ∈ s.queue (layout.queue key)) :
    Step layout s (.asking key ttl) .idle s
  | push {key : JobKey} {ttl : Nat} {t : Transition} {old : Option JobKey} {now : Int}
    (h : key.text ∉ s.queue (layout.queue key))
    (hold : (s.queue (layout.queue key)).getLast? = old.map JobKey.text) :
    Step layout s (.asking key ttl) (.posting t old ttl)
      (s.push (layout.queue key) layout.pools key.text key.canonicalId ttl now).2
  | post {t : Transition} {ttl : Nat} : Step layout s (.posting t none ttl) .idle s
  | turn {t : Transition} {old : JobKey} {ttl : Nat} :
    Step layout s (.posting t (some old) ttl) (.reading old ttl) s
  | found {old : JobKey} {ttl : Nat}
    (h : s.status? (layout.status old) = some QueueState.queued.name) :
    Step layout s (.reading old ttl) (.swapping old ttl) s
  | missed {old : JobKey} {ttl : Nat}
    (h : s.status? (layout.status old) ≠ some QueueState.queued.name) :
    Step layout s (.reading old ttl) .idle s
  | cancel {old : JobKey} {ttl : Nat} {now : Int}
    (h : s.status? (layout.status old) = some QueueState.queued.name) :
    Step layout s (.swapping old ttl) (.reporting ⟨old, .cancelled, some .queued, true⟩)
      ((s.setStatus (layout.status old) QueueState.cancelled.name ttl).retire
        (layout.queue old) layout.pools old.text now).2
  | refuse {old : JobKey} {ttl : Nat}
    (h : s.status? (layout.status old) ≠ some QueueState.queued.name) :
    Step layout s (.swapping old ttl) .idle s
  | report {t : Transition} : Step layout s (.reporting t) .idle s

end Stage

/-- A push as the request that it makes and what follows it. -/
theorem program_push (l : Ledger) (key : JobKey) : (Operation.push key).program l =
    .ask (.store (.push (l.layout.queue key) l.layout.pools key.text key.canonicalId l.ttl)) fun
      | .error _ => .done ()
      | .ok reply =>
        if reply.duplicate then .done ()
        else .ask (.post ⟨key, .queued, readableState reply.previous, false⟩) fun _ =>
          match displaced reply with
          | .error _ => .done ()
          | .ok (old, run) =>
            (l.supersede old .cancelled).bind fun _ => l.supersede run .aborted := by
  refine congrArg (Prog.ask (I := interface) _) (funext fun answer => ?_)
  cases answer with
  | error e => rfl
  | ok reply =>
    show Prog.bind (if reply.duplicate then _ else _) _ = if reply.duplicate then _ else _
    by_cases hd : reply.duplicate = true
    · rw [if_pos hd, if_pos hd]
      rfl
    · rw [if_neg hd, if_neg hd]
      refine congrArg (Prog.ask (I := interface) _) (funext fun _ => ?_)
      show Prog.bind (match displaced reply with | .error e => _ | .ok (old, run) => _) _ = _
      cases displaced reply with
      | error e => rfl
      | ok jobs =>
        obtain ⟨old, run⟩ := jobs
        show Prog.bind (Prog.bind _ fun _ => Prog.bind _ fun _ => _) _ = _
        rw [Prog.bind_assoc]
        refine congrArg (Prog.bind _) (funext fun _ => ?_)
        rw [Prog.bind_assoc]
        exact Prog.bind_done _

/-- A job is cancelled only if it still waits. -/
theorem supersede_cancelled (l : Ledger) (key : JobKey) : l.supersede (some key) .cancelled =
    .ask (.store (.status (l.layout.status key))) fun
      | .error _ => .done ()
      | .ok raw =>
        if raw = some QueueState.queued.name then
          .ask (.store (.swap l.layout.pools (l.swapOf key .queued .cancelled) l.ttl))
            (report ⟨key, .cancelled, some .queued, true⟩)
        else .done () := by
  show Prog.bind (l.apply key .cancelled true) _ = _
  rw [apply_eq]
  refine congrArg (Prog.ask (I := interface) _) (funext fun answer => ?_)
  cases answer with
  | error e => rfl
  | ok raw =>
    dsimp only
    by_cases h : raw = some QueueState.queued.name
    · subst h
      rw [readState_name, if_pos rfl]
      refine congrArg (Prog.ask (I := interface) _) (funext fun reply => ?_)
      rcases reply with e | _ | _ <;> rfl
    · rw [if_neg h]
      cases hr : readState raw with
      | error e => rfl
      | ok found =>
        cases found with
        | none => rfl
        | some current =>
          have hc : ¬ current.canBecome .cancelled = true := by
            intro hc
            obtain rfl := QueueState.eq_queued_of_canBecome hc
            exact h (readState_eq_some hr)
          dsimp only
          rw [if_neg hc]
          rfl

namespace System

variable {Client : Type} [DecidableEq Client] {layout : KeyLayout} {s : System Client}

/-- A step of a client whose push is at some stage, in a store where no job runs. -/
theorem next_stage (hfree : ∀ job, ¬ s.store.InPool layout.pools.active job)
    (hnamed : ∀ q, ∀ job ∈ s.store.queue q, ∃ key : JobKey, key.text = job)
    {client : Client} {stage : Stage} (h : s.running client = stage.program layout) (now : Int) :
    ∃ stage', stage.Step layout s.store stage' (s.next layout (.step client now)).store ∧
      (s.next layout (.step client now)).running =
        Function.update s.running client (stage'.program layout) := by
  cases stage with
  | idle =>
    have hn : s.next layout (.step client now) = s := by
      unfold System.next
      dsimp only
      rw [h]
      rfl
    rw [hn]
    refine ⟨.idle, .idle, ?_⟩
    rw [← h, Function.update_eq_self]
  | asking key ttl =>
    rw [Stage.program, program_push] at h
    rw [next_step layout h]
    by_cases hq : key.text ∈ s.store.queue (layout.queue key)
    · have hpush := s.store.push_of_mem layout.pools key.canonicalId ttl now hq
      refine ⟨.idle, ?_, ?_⟩
      · show Stage.Step layout s.store _ _ (s.store.push _ _ _ _ _ _).2
        rw [hpush]
        exact .duplicate hq
      · show Function.update s.running client
          (if (s.store.push _ _ _ _ _ _).1.duplicate then _ else _) = _
        rw [hpush]
        rfl
    · obtain ⟨old, hold⟩ := JobKey.exists_map_text fun job hl =>
        hnamed (layout.queue key) job (List.mem_of_getLast? hl)
      have hw : (s.store.waitingIn (layout.queue key) layout.pools).getLast? =
          old.map JobKey.text := by rw [s.store.waitingIn_of_free _ hfree, hold]
      have hr : (s.store.runningIn (layout.queue key) layout.pools).getLast? =
          (none : Option JobKey).map JobKey.text := by rw [s.store.runningIn_of_free _ hfree]; rfl
      obtain ⟨hdup, hdis⟩ := displaced_push hq hw hr key.canonicalId ttl now
      refine ⟨.posting ⟨key, .queued, readableState (s.store.push (layout.queue key) layout.pools
          key.text key.canonicalId ttl now).1.previous, false⟩ old ttl, .push hq hold,
        congrArg (Function.update _ _) ?_⟩
      show (if (s.store.push _ _ _ _ _ _).1.duplicate then _ else _) = _
      rw [if_neg hdup]
      refine congrArg (Prog.ask (I := interface) _) (funext fun _ => ?_)
      show (match displaced (s.store.push _ _ _ _ _ _).1 with | .error _ => _ | .ok (_, _) => _) = _
      rw [hdis]
      exact Prog.bind_done _
  | posting t old ttl =>
    rw [next_step layout h]
    cases old with
    | none => exact ⟨.idle, .post, rfl⟩
    | some old => exact ⟨.reading old ttl, .turn, rfl⟩
  | reading old ttl =>
    rw [Stage.program, supersede_cancelled] at h
    rw [next_step layout h]
    by_cases hs : s.store.status? (layout.status old) = some QueueState.queued.name
    · exact ⟨.swapping old ttl, .found hs, congrArg (Function.update _ _) (if_pos hs)⟩
    · exact ⟨.idle, .missed hs, congrArg (Function.update _ _) (if_neg hs)⟩
  | swapping old ttl =>
    rw [next_step layout h]
    by_cases hs : s.store.status? (layout.status old) = some QueueState.queued.name
    · obtain ⟨held, hswap⟩ := @InProcess.swap_of_eq s.store layout.pools
        (swapOf ⟨layout, ttl⟩ old .queued .cancelled) hs ttl now
      refine ⟨.reporting ⟨old, .cancelled, some .queued, true⟩, ?_,
        congrArg (Function.update _ _) ?_⟩
      · show Stage.Step layout s.store _ _ (s.store.swap _ _ _ _).2
        rw [hswap]
        exact .cancel hs
      · show report _ (.ok (s.store.swap _ _ _ _).1) = _
        rw [hswap]
        rfl
    · have hswap := @InProcess.swap_of_ne s.store layout.pools
        (swapOf ⟨layout, ttl⟩ old .queued .cancelled) hs ttl now
      refine ⟨.idle, ?_, congrArg (Function.update _ _) ?_⟩
      · show Stage.Step layout s.store _ _ (s.store.swap _ _ _ _).2
        rw [hswap]
        exact .refuse hs
      · show report _ (.ok (s.store.swap _ _ _ _).1) = _
        rw [hswap]
        rfl
  | reporting t =>
    rw [next_step layout h]
    exact ⟨.idle, .report, rfl⟩

end System

end BuildQueue.Ledger
