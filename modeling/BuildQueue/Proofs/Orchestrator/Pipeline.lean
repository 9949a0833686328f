import BuildQueue.Proofs.Orchestrator.Deeds
import BuildQueue.Proofs.Orchestrator.Policy

/-!
# A success that is left alone

When nothing comes in between, the success of a job that is at work is recorded before anything else
is done, and the handler goes along the pipeline with the status at SUCCESS at every step
(`System.run_onSuccess`). No call stands in the pipeline twice (`pipeline_nodup`).
-/

namespace BuildQueue.Orchestrator

theorem maintenanceCalls_eq (o : Orchestrator) (f : Findings) (source : Source) (bump : Bump) :
    o.maintenanceCalls f source bump = [] ∨ o.maintenanceCalls f source bump =
      [.createBranch source f.head f.version.maintenanceBranch] := by
  unfold maintenanceCalls
  split
  · exact .inr rfl
  · exact .inl rfl

theorem releaseCalls_staged (o : Orchestrator) (f : Findings) (source : Source)
    (due : Option (String × Bump)) :
    (o.releaseCalls f source due).Pairwise (fun c d => c.stage < d.stage) ∧
      ∀ c ∈ o.releaseCalls f source due, 3 ≤ c.stage := by
  cases due with
  | none => exact ⟨.nil, nofun⟩
  | some due =>
    obtain ⟨branch, bump⟩ := due
    obtain h | h := o.maintenanceCalls_eq f source bump
    · simp [releaseCalls, h, Call.stage]
    · simp [releaseCalls, h, Call.stage]

theorem mergeCalls_eq (o : Orchestrator) (key : JobKey) :
    o.mergeCalls key = [] ∨ ∃ id, o.mergeCalls key = [.merge key.source id] := by
  unfold mergeCalls
  split
  · split
    · exact .inr ⟨_, rfl⟩
    · exact .inl rfl
  · exact .inl rfl

/-- No call stands in the row twice. -/
theorem pipeline_nodup (o : Orchestrator) (key : JobKey) (f : Findings) :
    (o.pipeline key f).Nodup := by
  let front : List Call := [.publish key, .setValidBuild key.source key.commit
    (logUrl o.logBase key.source key.canonicalId)] ++ o.mergeCalls key
  have hfront : front.Pairwise (fun c d => c.stage < d.stage) ∧ ∀ c ∈ front, c.stage < 3 := by
    obtain h | ⟨id, h⟩ := o.mergeCalls_eq key
    · simp [front, h, Call.stage]
    · simp [front, h, Call.stage]
  have hstages : (o.pipeline key f).Pairwise fun c d => c.stage < d.stage := by
    obtain ⟨hrelease, hlo⟩ := o.releaseCalls_staged f key.source (o.releaseDue key f)
    exact List.pairwise_append.2
      ⟨hfront.1, hrelease, fun c hc d hd => (hfront.2 c hc).trans_le (hlo d hd)⟩
  refine hstages.imp fun hlt e => ?_
  rw [e] at hlt
  exact Nat.lt_irrefl _ hlt

/-- The calls that are made are the first ones of the row. -/
theorem Course.calls_prefix {f : Findings} {calls : List Call} {said : Option LogEntry}
    {deeds : List Deed} (h : Course f calls said deeds) :
    deeds.filterMap Deed.call? <+: calls := by
  cases h with
  | completed passes made told => rw [made]
  | stopped split passes level made told =>
    rw [split, List.filterMap_append]
    exact made

open Site

variable {σ : Type}

/-- From the site `s` on, a job has been moved to SUCCESS, and its status says so for as long as a
status lives. -/
structure Succeeded (o : Orchestrator) (key : JobKey) (s t : Site σ) : Prop where
  moved : Moved o key .started .success s t
  live : t.store.clock < s.store.clock + o.ledger.ttl →
    t.store.status? (o.ledger.layout.status key) = some QueueState.success.name

/-- The handler does nothing if the status has expired; else it records the success before it does
anything else, and goes along the pipeline. -/
theorem Site.Runs.onSuccess_inv {o : Orchestrator} {react : σ → interface.Request → Moment × σ}
    {s t : Site σ} {vs : Visits σ} {key : JobKey}
    (hg : Ledger.Grounded o.ledger.layout s.store) (hs : Holds o key (some .started) s)
    (h : Runs react (o.onSuccess key) s vs () t) :
    ∃ early late, vs = early ++ late ∧ deeds early = [] ∧
      ((late = [] ∧ Idle s t ∧ t.store.status? (o.ledger.layout.status key) = none) ∨
        (Succeeded o key s t ∧ (∀ visit ∈ late, Succeeded o key s visit.2) ∧
          ∃ f rest, deeds late = .note key .info "Build succeeded." :: rest ∧
            Course f (o.pipeline key f)
              (releaseEntry f key.source key.canonicalId (o.releaseDue key f)) rest)) := by
  obtain ⟨vs₁, rest, r, t₁, rfl, hstatus, h⟩ := h.bind_inv
  obtain ⟨hdeeds, hidle, live, rfl, hreads⟩ := hstatus.status_inv hg hs
  split at h
  · obtain ⟨vs₂, late, b, t₂, rfl, hrecord, h⟩ := h.bind_inv
    obtain ⟨hdeeds', hmoved⟩ := hrecord.record_inv (hidle.grounded hg) (hs.idle hidle)
    refine ⟨vs₁ ++ vs₂, late, (List.append_assoc _ _ _).symm, ?_, ?_⟩
    · rw [deeds_append, hdeeds, hdeeds', List.append_nil]
    rcases hmoved with ⟨rfl, current, hcurrent, -, hmoved⟩ | ⟨rfl, hidle', hnone⟩
    · obtain rfl := Option.some.inj hcurrent
      have hsucceeded : ∀ u, Idle t₂ u → Succeeded o key s u := fun u hu =>
        have hm := (hmoved.after hidle).before hu
        ⟨hm, hm.live⟩
      have hstaged : Staged 0 7 (log key .info "Build succeeded." >>= fun _ => o.publish key) :=
        .bind 0 (.log _ _ _ (Nat.le_refl 0)) fun _ => publish_staged
      obtain ⟨ht, hlate⟩ := h.idle hstaged.outside
      obtain ⟨vs₃, vs₄, _, t₃, rfl, hlog, hpublish⟩ := h.bind_inv
      obtain ⟨f, hcourse⟩ := publish_course hpublish.path
      refine .inr ⟨hsucceeded t ht, fun visit hv => hsucceeded _ (hlate visit hv), f, deeds vs₄, ?_,
        deeds_eq vs₄ ▸ hcourse⟩
      rw [deeds_append, hlog.log_inv.1, List.singleton_append]
    · obtain ⟨rfl, -, rfl⟩ := h.pure_inv
      exact .inl ⟨rfl, hidle.trans hidle', hnone .started rfl rfl⟩
  · next hother =>
    obtain ⟨rfl, -, rfl⟩ := h.pure_inv
    refine ⟨vs₁, [], rfl, hdeeds, .inl ⟨rfl, hidle, ?_⟩⟩
    rcases hreads with rfl | ⟨-, hnone⟩
    · exact absurd rfl hother
    · exact hnone

/-- What a success that is reported of a started job leads to, in a store that comes about in any
run, whatever the configuration is and whatever is answered. First the success is recorded, unless
the status has expired. All else is done after that, with the status at SUCCESS at every step. After
its first entry the handler goes along the pipeline, to the end or to the first call that fails. -/
theorem System.run_onSuccess (o : Orchestrator) (react : σ → interface.Request → Moment × σ)
    (events : List Event) (mailbox : Mailbox) (around : σ) (key : JobKey)
    (hstarted : (({} : System).run o events).store.status? (o.ledger.layout.status key) =
      some QueueState.started.name) :
    let s : Site σ := ⟨(({} : System).run o events).store, mailbox, around⟩
    let t := s.run react (o.onSuccess key)
    ∃ early late, (o.onSuccess key).visits (Site.serve react) s = early ++ late ∧
      deeds early = [] ∧
      ((late = [] ∧ Idle s t ∧ t.store.status? (o.ledger.layout.status key) = none) ∨
        (Succeeded o key s t ∧ (∀ visit ∈ late, Succeeded o key s visit.2) ∧
          ∃ f rest, deeds late = .note key .info "Build succeeded." :: rest ∧
            (rest.filterMap Deed.call?).Nodup ∧ Course f (o.pipeline key f)
              (releaseEntry f key.source key.canonicalId (o.releaseDue key f)) rest)) := by
  intro s t
  obtain ⟨early, late, hvisits, hearly, hend⟩ := (runs react (o.onSuccess key) s).onSuccess_inv
    (grounded_run o events) fun raw hraw => hstarted.symm.trans hraw
  refine ⟨early, late, hvisits, hearly, hend.imp_right ?_⟩
  rintro ⟨ht, hlate, f, rest, hrest, hcourse⟩
  exact ⟨ht, hlate, f, rest, hrest, (pipeline_nodup o key f).sublist hcourse.calls_prefix.sublist,
    hcourse⟩

/-- An update was opened, its job was admitted, and the executor has reported that it started. -/
def System.startedOnce : List Event :=
  .begin (opened "1") :: steps 0 6 ++ .take :: steps 1 2 ++
    .begin (.outcome ⟨.started, Ledger.rival "1"⟩) :: steps 2 4

/-- Where all goes well, the update is merged and released, and a branch for later patches is
opened. -/
theorem System.run_onSuccess_startedOnce :
    let react : Unit → interface.Request → Moment × Unit :=
      fun _ _ => ({ answer := obliging }, ())
    let s : Site Unit := ⟨(({} : System).run releasing startedOnce).store, {}, ()⟩
    let key := Ledger.rival "1"
    s.store.status? (releasing.ledger.layout.status key) = some QueueState.started.name ∧
      Succeeded releasing key s (s.run react (releasing.onSuccess key)) ∧
      ∃ f rest, Course f (releasing.pipeline key f) (releaseEntry f key.source key.canonicalId
          (releasing.releaseDue key f)) rest ∧
        .createBranch key.source key.commit "release/0.0" ∈ rest.filterMap Deed.call? := by
  intro react s key
  let t := s.run react (releasing.onSuccess key)
  let visits := (releasing.onSuccess key).visits (Site.serve react) s
  have hfacts :
      s.store.status? (releasing.ledger.layout.status key) = some QueueState.started.name ∧
      t.store.status? (releasing.ledger.layout.status key) = some QueueState.success.name ∧
      .createBranch key.source key.commit "release/0.0" ∈
        (deeds visits).filterMap Deed.call? := by
    decide +kernel
  obtain ⟨hstarted, hlive, hopened⟩ := hfacts
  obtain ⟨early, late, hvisits, hearly, ⟨-, -, hnone⟩ | ⟨ht, -, f, rest, hlate, -, hcourse⟩⟩ :=
    run_onSuccess releasing react startedOnce {} () key hstarted
  · cases hlive.symm.trans hnone
  · refine ⟨hstarted, ht, f, rest, hcourse, ?_⟩
    rwa [show visits = early ++ late from hvisits, deeds_append, hearly, List.nil_append,
      hlate] at hopened

end BuildQueue.Orchestrator
