import BuildQueue.Proofs.Ledger.Agreement
import BuildQueue.Proofs.Store.History

/-!
# The history of a status

The requests of the ledger, in any order, write a status only where the transition table has a way
from what it was (`StatusWrite.Legal`), because a job whose live status says that it is at work is
still in its queue. So the writes of a status are a history (`history_writes`), and after one that
ends the job the next one is a push.
-/

namespace BuildQueue

namespace Ledger

variable {layout : KeyLayout}

/-- The event is a request of the ledger, or time passes. -/
def LawfulEvent (layout : KeyLayout) : StoreEvent → Prop
  | .call c _ => ∃ limit, (Request.store c).Lawful layout limit
  | .complete .. => False
  | .advance _ => True

/-- What an event does to the status of a job: it writes where that is legal, or it leaves the entry
alone, so that the status can at most expire. -/
def Changes (s : InProcess) (e : StoreEvent) (name : String) : Prop :=
  (∃ w, s.write? e name = some w ∧ w.Legal (s.status? name) ∧
      (s.apply e).statuses[name]? = some (w.text, s.clock + e.ttl)) ∨
    (s.write? e name = none ∧ (s.apply e).statuses[name]? = s.statuses[name]?)

theorem exists_lane {events : List StoreEvent} (h : ∀ e ∈ events, LawfulEvent layout e) :
    ∃ lane, (({} : InProcess).run events).Follows layout.pools layout.home lane ∧
      Agrees layout (({} : InProcess).run events) lane := by
  induction events using List.reverseRecOn with
  | nil => exact ⟨_, InProcess.Follows.empty, Agrees.empty⟩
  | append_singleton events e ih =>
    obtain ⟨lane, hf, ha⟩ := ih fun e' he' => h e' (List.mem_append_left _ he')
    have he := h e (by simp)
    rw [InProcess.run_concat]
    cases e with
    | call c now =>
      obtain ⟨limit, hc⟩ := he
      exact ha.perform hf hc now
    | complete queue pools job now => cases he
    | advance ms => exact ⟨lane, hf.advance ms, ha.advance ms⟩

section Step

variable {s : InProcess} {lane : String → Lane} {e : StoreEvent} {job : String} {w : StatusWrite}

/-- A push never writes over the status of a job at work. -/
theorem legal_push (hf : s.Follows layout.pools layout.home lane) (ha : Agrees layout s lane)
    {key : JobKey} (hk : key.text ∉ s.queue (layout.queue key)) :
    StatusWrite.Legal (s.status? (layout.pools.status key.text)) .queued := by
  cases hs : s.status? (layout.pools.status key.text) with
  | none => exact .inl rfl
  | some raw =>
    obtain ⟨state, rfl, hallow⟩ := ha.place _ _ hs
    have hrun : (lane (layout.home key.text)).running ≠ some key.text := fun e => by
      rw [← layout.home_text, hf.queue] at hk
      exact hk (Lane.mem_jobs.2 (.inl e))
    refine .inr ⟨state, rfl, ?_⟩
    cases state <;> first | exact .inl rfl | exact .inr rfl | exact absurd hallow hrun

theorem legal_of_write? (hf : s.Follows layout.pools layout.home lane) (ha : Agrees layout s lane)
    (he : LawfulEvent layout e) (hw : s.write? e (layout.pools.status job) = some w) :
    w.Legal (s.status? (layout.pools.status job)) := by
  cases e with
  | call c now =>
    obtain ⟨limit, hc⟩ := he
    cases c with
    | push queue pools other label ttl =>
      obtain ⟨rfl, key, rfl, rfl⟩ := hc
      obtain ⟨rfl, hname, hk⟩ := s.write?_push.1 hw
      rw [hname]
      exact legal_push hf ha hk
    | start pools max ttl =>
      obtain ⟨rfl, -⟩ := hc
      rw [InProcess.write?] at hw
      split at hw
      · next hadm =>
        obtain ⟨other, hother, hname⟩ := hadm
        cases hw
        rw [hname]
        exact (s.queued_of_admitted _ _ _ (s.nodup_map_members _) _ _ hother).2
      · cases hw
    | swap pools change ttl =>
      obtain ⟨rfl, l, key, current, next, rfl, rfl, hcan, hn⟩ := hc
      obtain ⟨rfl, hname, hs⟩ := s.write?_swap.1 hw
      exact ⟨hs, current, next, rfl, rfl, hcan, hn⟩
    | status name => cases hw
    | pool pools which => cases hw
  | complete queue pools other now => cases he
  | advance ms => cases hw

theorem changes (hf : s.Follows layout.pools layout.home lane) (ha : Agrees layout s lane)
    (he : LawfulEvent layout e) (job : String) : Changes s e (layout.pools.status job) := by
  have hs := s.statuses_apply e (layout.pools.status job)
  cases hw : s.write? e (layout.pools.status job) with
  | none =>
    rw [hw] at hs
    exact .inr ⟨hw, hs⟩
  | some w =>
    rw [hw] at hs
    exact .inl ⟨w, hw, legal_of_write? hf ha he hw, hs⟩

end Step

/-- A status that is live is the one that was written last. -/
theorem last_of_status? {name raw : String} {events : List StoreEvent}
    (h : (({} : InProcess).run events).status? name = some raw) :
    ∃ w, (({} : InProcess).writes name events).getLast? = some w ∧ w.text = raw := by
  have hentry := InProcess.text_of_status? h
  clear h
  induction events using List.reverseRecOn with
  | nil => simp [InProcess.run] at hentry
  | append_singleton events e ih =>
    rw [InProcess.run_concat, InProcess.statuses_apply] at hentry
    rw [InProcess.writes_concat]
    cases hw : (({} : InProcess).run events).write? e name with
    | none =>
      rw [hw] at hentry
      simpa using ih hentry
    | some w =>
      rw [hw] at hentry
      exact ⟨w, by simp, Option.some.inj hentry⟩

/-- The writes of a status follow each other as the transition table has it. -/
theorem history_writes {events : List StoreEvent} (h : ∀ e ∈ events, LawfulEvent layout e)
    (job : String) : History (({} : InProcess).writes (layout.pools.status job) events) := by
  induction events using List.reverseRecOn with
  | nil => exact .nil
  | append_singleton events e ih =>
    have hbefore := fun e' he' => h e' (List.mem_append_left _ he')
    rw [InProcess.writes_concat]
    cases hw : (({} : InProcess).run events).write? e (layout.pools.status job) with
    | none => simpa using ih hbefore
    | some w =>
      obtain ⟨lane, hf, ha⟩ := exists_lane hbefore
      have hlegal := legal_of_write? hf ha (h e (by simp)) hw
      refine .snoc (ih hbefore) ?_
      cases hs : (({} : InProcess).run events).status? (layout.pools.status job) with
      | none =>
        rw [hs] at hlegal
        cases w with
        | queued => exact .inl rfl
        | admitted => cases hlegal
        | swapped expected next => cases hlegal.1
      | some raw =>
        obtain ⟨last, hlast, htext⟩ := last_of_status? hs
        rw [hs, ← htext] at hlegal
        exact .inr ⟨last, hlast, hlegal⟩

/-! ## Clients -/

namespace System

variable {Client : Type} [DecidableEq Client] {events : List (Event Client)}

omit [DecidableEq Client] in
/-- What an event does to the store. -/
def operation? (s : System Client) : Event Client → Option StoreEvent
  | .call .. => none
  | .step client now =>
    match s.running client with
    | .ask (.store c) _ => some (.call c now)
    | _ => none
  | .advance ms => some (.advance ms)

/-- What the events of a run do to the store, one after the other. -/
def operations (layout : KeyLayout) (s : System Client) : List (Event Client) → List StoreEvent
  | [] => []
  | e :: events => (s.operation? e).toList ++ (s.next layout e).operations layout events

theorem store_next (s : System Client) (e : Event Client) :
    (s.next layout e).store = s.store.run (s.operation? e).toList := by
  cases e with
  | call client ttl op =>
    unfold System.next
    dsimp only
    split <;> rfl
  | step client now =>
    cases hc : s.running client with
    | done _ =>
      simp only [System.next, operation?, hc]
      rfl
    | ask r rest =>
      rw [next_step layout hc, operation?, hc]
      cases r <;> rfl
  | advance ms => rfl

/-- The store of the clients is the one on which their operations have been done. -/
theorem store_run (s : System Client) (events : List (Event Client)) :
    (s.run layout events).store = s.store.run (s.operations layout events) := by
  induction events generalizing s with
  | nil => rfl
  | cons e events ih =>
    rw [operations, InProcess.run, List.foldl_append, run, List.foldl_cons]
    exact (ih _).trans (congrArg (InProcess.run · _) (s.store_next e))

omit [DecidableEq Client] in
theorem lawful_operation? {s : System Client}
    (hs : ∀ client, ∃ limit, (s.running client).Asks (Request.Lawful layout limit))
    (e : Event Client) : ∀ op ∈ s.operation? e, LawfulEvent layout op := by
  intro op hop
  cases e with
  | call client ttl op => cases hop
  | step client now =>
    obtain ⟨limit, ha⟩ := hs client
    rw [operation?] at hop
    split at hop
    · next c rest hc =>
      rw [hc] at ha
      cases hop
      exact ⟨limit, ha.1⟩
    · cases hop
  | advance ms =>
    cases hop
    exact trivial

theorem asks_next {s : System Client}
    (hs : ∀ client, ∃ limit, (s.running client).Asks (Request.Lawful layout limit))
    {e : Event Client} (he : ∃ limit, e.Lawful limit) :
    ∀ client, ∃ limit, ((s.next layout e).running client).Asks (Request.Lawful layout limit) := by
  have hrun : ∀ client p, (∃ limit, p.Asks (Request.Lawful layout limit)) →
      ∀ c, ∃ limit, (Function.update s.running client p c).Asks (Request.Lawful layout limit) := by
    intro client p hp
    rw [Function.forall_update_iff s.running
      fun _ p => ∃ limit, p.Asks (Request.Lawful layout limit)]
    exact ⟨hp, fun c _ => hs c⟩
  cases e with
  | call client ttl op =>
    obtain ⟨limit, hl⟩ := he
    unfold System.next
    dsimp only
    split
    · exact hrun client _ ⟨limit, Operation.asks (l := ⟨layout, ttl⟩) hl⟩
    · exact hs
  | step client now =>
    cases hc : s.running client with
    | done _ =>
      simp only [System.next, hc]
      exact hs
    | ask r rest =>
      obtain ⟨limit, hl⟩ := hs client
      rw [hc] at hl
      rw [next_step layout hc]
      exact hrun client _ ⟨limit, hl.2 _⟩
  | advance ms => exact hs

/-- Whatever clients do to the store is lawful. -/
theorem lawful_operations {s : System Client}
    (hs : ∀ client, ∃ limit, (s.running client).Asks (Request.Lawful layout limit))
    (he : ∀ e ∈ events, ∃ limit, e.Lawful limit) :
    ∀ op ∈ s.operations layout events, LawfulEvent layout op := by
  induction events generalizing s with
  | nil => exact fun op hop => absurd hop List.not_mem_nil
  | cons e events ih =>
    intro op hop
    rcases List.mem_append.1 hop with hop | hop
    · exact lawful_operation? hs e op (Option.mem_toList.1 hop)
    · exact ih (asks_next hs (he e List.mem_cons_self))
        (fun e' he' => he e' (List.mem_cons_of_mem _ he')) op hop

end System

end Ledger

end BuildQueue
