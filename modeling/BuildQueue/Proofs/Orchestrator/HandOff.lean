import BuildQueue.Proofs.Orchestrator.Journal

/-!
# Handing a job to the executor

A job is handed to the executor right after its task has read that the job is starting, and the
executor is told to abort it only after its status has become ABORTED. The read and the hand-off are
two requests, and the abort may fall between them (`System.not_startJob_before_abortJob`); but that
is the only way in which a job that was aborted is started (`System.startJob_after_abortJob`).
-/

namespace BuildQueue.Orchestrator

/-- The job is found to be starting. -/
def recheck (o : Orchestrator) (key : JobKey) : Exchange interface :=
  ⟨.inl (.store (.status (o.ledger.layout.status key))), .ok (some QueueState.starting.name)⟩

namespace System

variable {o : Orchestrator} {s : System} {key : JobKey} {events : List Event} {n : Nat}

/-- The last exchange of a task is the last entry of the journal that is about the task. -/
theorem exists_split_of_getLast? {x : Exchange interface} (h : (s.trace n).getLast? = some x) :
    ∃ before after, s.journal = before ++ (n, x) :: after ∧ ∀ entry ∈ after, entry.1 ≠ n := by
  rw [trace] at h
  generalize s.journal = journal at h
  induction journal using List.reverseRecOn with
  | nil => cases h
  | append_singleton journal entry ih =>
    rw [List.filterMap_append, List.filterMap_cons, List.filterMap_nil] at h
    by_cases hn : entry.1 = n
    · rw [if_pos hn] at h
      obtain rfl : entry.2 = x := by simpa using h
      exact ⟨journal, [], by rw [← hn], fun _ hm => absurd hm List.not_mem_nil⟩
    · rw [if_neg hn, List.append_nil] at h
      obtain ⟨before, after, rfl, hafter⟩ := ih h
      refine ⟨before, after ++ [entry], by simp, List.forall_mem_append.2 ⟨hafter, ?_⟩⟩
      exact List.forall_mem_singleton.2 hn

/-- Whoever posts that a job has ended has ended it. -/
theorem Sound.written_of_posted (hs : Sound o s) {t : Transition} (h : s.HasPosted t)
    (ht : t.state.isTerminal = true) : ∃ entry ∈ s.journal, ∃ current : QueueState,
      written? (o.ledger.layout.status t.key) entry.2 =
        some (.swapped current.name t.state.name) := by
  obtain ⟨⟨n, x⟩, he, hx⟩ := h
  obtain ⟨before, after, e⟩ := List.append_of_mem (mem_trace.2 he)
  have htask := List.getElem?_eq_getElem (hs.known _ he)
  have hr : o.Rule _ before.getLast? (.inl (.post t)) := hx ▸ hs.rule_of_mem htask e
  rcases hr with hq | hq | ⟨l, current, held, hl, hlast⟩
  · rw [hq] at ht
    cases ht
  · rw [hq] at ht
    cases ht
  · obtain ⟨⟨r, reply⟩, hz, hinl⟩ := Option.bind_eq_some_iff.1 hlast
    cases r with
    | inr r => cases hinl
    | inl r =>
      cases hinl
      have hmem := List.mem_append_left (x :: after) (List.mem_of_getLast? hz)
      have hentry := mem_trace.1 (e ▸ hmem)
      exact ⟨_, hentry, current, if_pos rfl⟩

/-- The executor is told to abort a job after its status has become ABORTED. -/
theorem aborted_of_abortJob {before after : List (Nat × Exchange interface)}
    {x : Exchange interface}
    (h : (({} : System).run o events).journal = before ++ (n, x) :: after)
    (hx : call? x = some (.abortJob key)) : ∃ entry ∈ before, ∃ current : QueueState,
      written? (o.ledger.layout.status key) entry.2 =
        some (.swapped current.name QueueState.aborted.name) := by
  obtain ⟨events', now, answer, duty, rest, rfl, hask, -⟩ := exists_run_of_journal h
  have hs := sound_run o events'
  obtain ⟨t, rfl, rfl, ht⟩ := calls_of_rule (hs.rule hask) hx
  have hw := hs.written_of_posted (hs.taken _ (List.mem_of_getElem? hask) t rfl) (by rw [ht]; rfl)
  rwa [ht] at hw

/-- A job that was admitted once and is found to be starting has not been aborted. -/
theorem not_aborted_of_recheck {before after : List (Nat × Exchange interface)}
    (h : (({} : System).run o events).journal = before ++ (n, o.recheck key) :: after)
    (hadm : ((({} : System).run o events).writes o key).count .admitted ≤ 1) :
    ∀ entry ∈ before, ∀ w, written? (o.ledger.layout.status key) entry.2 = some w →
      w.text ≠ QueueState.aborted.name := by
  intro entry he w hw ht
  have hwrites := writes_eq o events key
  rw [h, List.filterMap_append] at hwrites
  obtain ⟨events', now, answer, duty, rest, rfl, -, hreply⟩ := exists_run_of_journal h
  rw [← writes_eq] at hwrites
  have hhist := history_run o events' key
  have hmem : w ∈ (({} : System).run o events').writes o key := by
    rw [writes_eq]
    exact List.mem_filterMap.2 ⟨entry, he, hw⟩
  obtain ⟨last, hlast, hbusy⟩ : ∃ last, ((({} : System).run o events').writes o key).getLast? =
      some last ∧ last.busy = true := by
    have hlive : (({} : System).run o events').store.status? (o.ledger.layout.status key) =
        some QueueState.starting.name := (Except.ok.inj hreply).symm
    rw [(sound_run o events').store] at hlive
    obtain ⟨last, hlast, htext⟩ := Ledger.last_of_status? hlive
    exact ⟨last, hlast, by rw [StatusWrite.busy, htext]; rfl⟩
  have hadm' : ((({} : System).run o events').writes o key).count .admitted ≤ 1 := by
    rw [hwrites, List.count_append] at hadm
    omega
  -- A job at work that had been aborted would have been admitted twice.
  have hnot := hhist.not_finishes_of_busy hadm' hlast hbusy hmem
  rcases hhist.legal_of_mem hmem with rfl | ⟨was, hlegal⟩
  · exact absurd ht (by decide)
  · exact Bool.eq_false_iff.1 hnot
      (StatusWrite.finishes_of_text hlegal ht (by decide) (by decide))

/-- A job that was admitted once and is told to be aborted is handed off after that only by a task
that had looked at its status before it was aborted, and that has asked for nothing since. -/
theorem startJob_after_abortJob {before after : List (Nat × Exchange interface)}
    {x : Exchange interface}
    (hadm : ((({} : System).run o events).writes o key).count .admitted ≤ 1)
    (h : (({} : System).run o events).journal = before ++ (n, x) :: after)
    (hx : call? x = some (.startJob key))
    (hab : ∃ entry ∈ before, call? entry.2 = some (.abortJob key)) :
    ∃ a b, before = a ++ (n, o.recheck key) :: b ∧ (∀ entry ∈ b, entry.1 ≠ n) ∧
      (∀ entry ∈ a, call? entry.2 ≠ some (.abortJob key) ∧
        ∀ w, written? (o.ledger.layout.status key) entry.2 = some w →
          w.text ≠ QueueState.aborted.name) ∧
      ∃ entry ∈ b, ∃ current : QueueState, written? (o.ledger.layout.status key) entry.2 =
        some (.swapped current.name QueueState.aborted.name) := by
  obtain ⟨events', now, answer, duty, rest, rfl, hask, -⟩ := exists_run_of_journal h
  obtain ⟨a, b, hsplit, hb⟩ := exists_split_of_getLast?
    (calls_of_rule ((sound_run o events').rule hask) hx)
  have hwhole := h
  rw [hsplit, List.append_assoc, List.cons_append] at hwhole
  have hnot := not_aborted_of_recheck hwhole hadm
  refine ⟨a, b, hsplit, hb, fun entry he => ⟨fun hc => ?_, hnot entry he⟩, ?_⟩
  -- Before an abort stands the write of ABORTED, and before the look there is none.
  · obtain ⟨first, second, rfl⟩ := List.append_of_mem he
    rw [List.append_assoc, List.cons_append] at hwhole
    obtain ⟨entry', he', current, hw⟩ := aborted_of_abortJob hwhole hc
    exact hnot entry' (List.mem_append_left _ he') _ hw rfl
  · obtain ⟨entry, he, hc⟩ := hab
    obtain ⟨first, second, hfirst⟩ := List.append_of_mem he
    rw [hfirst, List.append_assoc, List.cons_append] at h
    obtain ⟨entry', he', current, hw⟩ := aborted_of_abortJob h hc
    have hmem : entry' ∈ a ++ (n, o.recheck key) :: b :=
      hsplit ▸ hfirst ▸ List.mem_append_left _ he'
    rcases List.mem_append.1 hmem with ha | hmem
    · exact absurd rfl (hnot entry' ha _ hw)
    · rcases List.mem_cons.1 hmem with rfl | hmem
      · cases hw
      · exact ⟨entry', hmem, current, hw⟩

/-- A job has been found to be starting when a newer update comes. The job is aborted, the executor
is told so, and then the executor is told to start it. -/
def overtaken : List Event :=
  .begin (opened "1") :: steps 0 6 ++ .take :: steps 1 2 ++ .take :: steps 2 5 ++
    .begin (opened "2") :: steps 3 9 ++ .take :: .take :: steps 5 1 ++ steps 2 1

theorem journal_overtaken : ∃ before n x after,
    (({} : System).run solo overtaken).journal = before ++ (n, x) :: after ∧
      call? x = some (.startJob (Ledger.rival "1")) ∧
      ∃ entry ∈ before, call? entry.2 = some (.abortJob (Ledger.rival "1")) := by
  have hcalls : let journal := (({} : System).run solo overtaken).journal
      (journal[23]?.bind fun entry => call? entry.2) = some (.startJob (Ledger.rival "1")) ∧
        (journal.take 23).any fun entry => call? entry.2 = some (.abortJob (Ledger.rival "1")) := by
    decide +kernel
  dsimp only at hcalls
  generalize (({} : System).run solo overtaken).journal = journal at hcalls ⊢
  obtain ⟨hstart, habort⟩ := hcalls
  obtain ⟨⟨n, x⟩, hget, hx⟩ := Option.bind_eq_some_iff.1 hstart
  obtain ⟨entry, he, hc⟩ := List.any_eq_true.1 habort
  obtain ⟨hlt, hget⟩ := List.getElem?_eq_some_iff.1 hget
  refine ⟨journal.take 23, n, x, journal.drop 24, ?_, hx, entry, he, of_decide_eq_true hc⟩
  rw [← hget, List.getElem_cons_drop, List.take_append_drop]

theorem admitted_overtaken :
    ((({} : System).run solo overtaken).writes solo (Ledger.rival "1")).count .admitted = 1 := by
  decide +kernel

theorem startJob_after_abortJob_overtaken : ∃ before n x after,
    (({} : System).run solo overtaken).journal = before ++ (n, x) :: after ∧
      call? x = some (.startJob (Ledger.rival "1")) ∧
      ∃ a b, before = a ++ (n, solo.recheck (Ledger.rival "1")) :: b ∧
        ∀ entry ∈ b, entry.1 ≠ n := by
  obtain ⟨before, n, x, after, h, hx, hab⟩ := journal_overtaken
  obtain ⟨a, b, hsplit, hb, -⟩ := startJob_after_abortJob admitted_overtaken.le h hx hab
  exact ⟨before, n, x, after, h, hx, a, b, hsplit, hb⟩

/-- That a job was told to be aborted does not keep it from being handed off afterwards. -/
theorem not_startJob_before_abortJob :
    ¬ ∀ (o : Orchestrator) (events : List Event) (key : JobKey),
      ((({} : System).run o events).writes o key).count .admitted ≤ 1 → ∀ before n x after,
        (({} : System).run o events).journal = before ++ (n, x) :: after →
          call? x = some (.startJob key) →
            ∀ entry ∈ before, call? entry.2 ≠ some (.abortJob key) := by
  intro hnever
  obtain ⟨before, n, x, after, h, hx, entry, he, hc⟩ := journal_overtaken
  exact hnever solo overtaken _ admitted_overtaken.le before n x after h hx entry he hc

end System

end BuildQueue.Orchestrator
