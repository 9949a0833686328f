import BuildQueue.Proofs.Ledger.History
import BuildQueue.Proofs.Ledger.Paths

/-!
# Calls that move a job

A call that moves a job returns, and it has succeeded if and only if one of its requests was a swap
that the store has applied (`addState_returns`). That swap is a write of the job's status which no
other call has made (`Accepted.Wrote`, `Accepted.Wrote.before_eq`). The writes are a history, so of
all calls that would end a job one at most succeeds between two pushes (`run_history`).
-/

namespace BuildQueue.Ledger.System

variable {layout : KeyLayout} {Client : Type} [DecidableEq Client] {events : List (Event Client)}

/-! ## Calls from beginning to end -/

/-- What a client asks in an event, and what it is answered. -/
def exchange? (s : System Client) (client : Client) : Event Client → Option (Exchange interface)
  | .step c now =>
    if c = client then
      match s.running client with
      | .ask r _ => some ⟨r, (serve now s.surroundings r).1⟩
      | .done _ => none
    else none
  | _ => none

/-- What a client asks in a run, and what it is answered. -/
def exchanges (layout : KeyLayout) (s : System Client) (client : Client) :
    List (Event Client) → List (Exchange interface)
  | [] => []
  | e :: events => (s.exchange? client e).toList ++ (s.next layout e).exchanges layout client events

/-- As long as a client makes no other call, it goes down the path of what it is doing. -/
theorem run_path (layout : KeyLayout) (s : System Client) {client : Client}
    (h : ∀ ttl op, .call client ttl op ∉ events) :
    (s.running client).Path (s.exchanges layout client events)
      ((s.run layout events).running client) := by
  induction events generalizing s with
  | nil => exact .nil _
  | cons e events ih =>
    have hrest := ih (s.next layout e) fun ttl op hm => h ttl op (List.mem_cons_of_mem _ hm)
    show Prog.Path _ _ (((s.next layout e).run layout events).running client)
    cases e with
    | call other ttl op =>
      have hne : client ≠ other := fun e => h ttl op (e ▸ List.mem_cons_self)
      have hsame : (s.next layout (.call other ttl op)).running client = s.running client := by
        unfold System.next
        dsimp only
        split
        · exact Function.update_of_ne hne _ _
        · rfl
      rwa [hsame] at hrest
    | step other now =>
      cases hc : s.running other with
      | done _ =>
        have hstay : s.next layout (.step other now) = s := by simp only [System.next, hc]
        rw [hstay] at hrest ⊢
        by_cases ho : other = client
        · subst ho
          simpa [exchanges, exchange?, hc, hstay] using hrest
        · simpa [exchanges, exchange?, ho, hstay] using hrest
      | ask r rest =>
        have hrun := congrArg (fun t => t.running client) (next_step layout hc now)
        by_cases ho : other = client
        · subst ho
          simp only [Function.update_self] at hrun
          rw [hrun] at hrest
          simp only [exchanges, exchange?, if_true, hc, Option.toList_some]
          exact .cons hrest
        · simp only [Function.update_of_ne (Ne.symm ho)] at hrun
          rw [hrun] at hrest
          simpa [exchanges, exchange?, ho] using hrest
    | advance ms => exact hrest

/-- A call that moves a job returns. It has succeeded if and only if one of its requests was a swap
that the store has applied. -/
theorem addState_returns (layout : KeyLayout) {s : System Client} {client : Client} {ttl : Nat}
    {key : JobKey} {state : QueueState} (hidle : s.idle client = true)
    (hcall : ∀ ttl op, .call client ttl op ∉ events)
    (hend : ((s.next layout (.call client ttl (.addState key state))).run layout events).idle
      client = true) :
    let trace := (s.next layout (.call client ttl (.addState key state))).exchanges layout client
      events
    ∃ result, (addState ⟨layout, ttl⟩ key state).Path trace (.done result) ∧
      ((∃ t, result = .ok t) ↔
        ∃ current, swapOf ⟨layout, ttl⟩ key current state ∈ trace.filterMap applied?) := by
  intro trace
  have hstart : (s.next layout (.call client ttl (.addState key state))).running client =
      (addState ⟨layout, ttl⟩ key state).bind fun _ => .done () := by
    rw [System.next, running_of_idle hidle]
    exact Function.update_self ..
  have hpath := run_path layout (s.next layout (.call client ttl (.addState key state))) hcall
  rw [hstart, running_of_idle hend] at hpath
  obtain ⟨first, second, result, htrace, hp, hq⟩ := hpath.bind_done_inv
  obtain ⟨rfl, -⟩ := hq.done_inv
  rw [List.append_nil] at htrace
  rw [← htrace] at hp
  exact ⟨result, hp, addState_ok_iff hp⟩

/-! ## The writes of calls -/

/-- The writes of a job's status in a run of clients, the first one first. -/
def statusWrites (layout : KeyLayout) (job : String) (events : List (Event Client)) :
    List StatusWrite :=
  ({} : InProcess).writes (layout.pools.status job) (({} : System Client).operations layout events)

/-- A call that has moved the job, from its beginning to its end. -/
structure Accepted (layout : KeyLayout) (events : List (Event Client)) (job : String) where
  before : List (Event Client)
  client : Client
  ttl : Nat
  key : JobKey
  state : QueueState
  /-- What happens until the call has returned. -/
  during : List (Event Client)
  names : key.text = job
  happens : before ++ .call client ttl (.addState key state) :: during <+: events
  begins : (({} : System Client).run layout before).idle client = true
  alone : ∀ ttl op, .call client ttl op ∉ during
  returns : (((({} : System Client).run layout before).next layout
    (.call client ttl (.addState key state))).run layout during).idle client = true
  ok : ∃ t, (addState ⟨layout, ttl⟩ key state).Path
    (((({} : System Client).run layout before).next layout
      (.call client ttl (.addState key state))).exchanges layout client during) (.done (.ok t))

namespace Accepted

variable {job : String}

/-- The beginning of the call. -/
def event (a : Accepted layout events job) : Event Client :=
  .call a.client a.ttl (.addState a.key a.state)

/-- The write number `n` of the job's status is a swap to the state, made by a step of the call. -/
def Wrote (a : Accepted layout events job) (n : Nat) : Prop :=
  ∃ mid now rest current, a.during = mid ++ .step a.client now :: rest ∧
    n = (statusWrites layout job (a.before ++ a.event :: mid)).length ∧
    statusWrites layout job (a.before ++ a.event :: mid ++ [.step a.client now]) =
      statusWrites layout job (a.before ++ a.event :: mid) ++ [.swapped current a.state.name]

end Accepted

theorem operations_append (s : System Client) (events later : List (Event Client)) :
    s.operations layout (events ++ later) =
      s.operations layout events ++ (s.run layout events).operations layout later := by
  induction events generalizing s with
  | nil => rfl
  | cons e events ih =>
    rw [List.cons_append, operations, ih, operations, List.append_assoc]
    rfl

theorem statusWrites_mono (layout : KeyLayout) (job : String) {before : List (Event Client)}
    (h : before <+: events) :
    statusWrites layout job before <+: statusWrites layout job events := by
  obtain ⟨later, rfl⟩ := h
  rw [statusWrites, statusWrites, operations_append, InProcess.writes_append]
  exact List.prefix_append _ _

/-- One more event adds what it writes. -/
theorem statusWrites_concat {job : String} {e : Event Client} {op : StoreEvent}
    (h : (({} : System Client).run layout events).operation? e = some op) :
    statusWrites layout job (events ++ [e]) = statusWrites layout job events ++
      ((({} : System Client).run layout events).store.write? op
        (layout.pools.status job)).toList := by
  have hone : (({} : System Client).run layout events).operations layout [e] = [op] := by
    rw [operations, h, operations]
    rfl
  rw [statusWrites, operations_append, hone, InProcess.writes_concat, store_run]
  rfl

/-- What a client asks, it asks in one of the events. -/
theorem exists_of_mem_exchanges {s : System Client} {client : Client} {x : Exchange interface}
    (h : x ∈ s.exchanges layout client events) : ∃ mid e rest, events = mid ++ e :: rest ∧
      (s.run layout mid).exchange? client e = some x := by
  induction events generalizing s with
  | nil => cases h
  | cons e events ih =>
    rcases List.mem_append.1 h with h | h
    · exact ⟨[], e, events, rfl, Option.mem_toList.1 h⟩
    · obtain ⟨mid, e', rest, rfl, hx⟩ := ih h
      exact ⟨e :: mid, e', rest, rfl, hx⟩

/-- A swap that has been applied is a write, made by a step of the client. -/
theorem write_of_applied? {s : System Client} {client : Client} {e : Event Client}
    {x : Exchange interface} {change : StatusSwap}
    (hlaw : ∃ limit, (s.running client).Asks (Request.Lawful layout limit))
    (hx : s.exchange? client e = some x) (ha : applied? x = some change) :
    ∃ now op, e = .step client now ∧ s.operation? e = some op ∧
      s.store.write? op (layout.pools.status change.job) =
        some (.swapped change.expected change.next) := by
  cases e with
  | call other ttl op => cases hx
  | advance ms => cases hx
  | step other now =>
    rw [exchange?] at hx
    split at hx
    · next hc =>
      subst hc
      split at hx
      · next r rest hask =>
        obtain ⟨limit, hl⟩ := hlaw
        obtain ⟨pools, ttl, held, rfl⟩ := eq_of_applied? ha
        obtain ⟨rfl, hreply⟩ := Exchange.mk.inj (Option.some.inj hx)
        rw [hask] at hl
        obtain ⟨rfl, -⟩ := hl.1
        have hswap : (s.store.swap layout.pools change ttl now).1 = .applied held :=
          Except.ok.inj (eq_of_heq hreply)
        refine ⟨now, .call (.swap layout.pools change ttl) now, rfl, by rw [operation?, hask], ?_⟩
        rw [InProcess.write?, hswap]
        exact if_pos rfl
      · cases hx
    · cases hx

theorem asks_run (layout : KeyLayout) (he : ∀ e ∈ events, ∃ limit, e.Lawful limit) :
    ∀ client, ∃ limit, ((({} : System Client).run layout events).running client).Asks
      (Request.Lawful layout limit) := by
  have hstart : ∀ client, ∃ limit, (({} : System Client).running client).Asks
      (Request.Lawful layout limit) := fun _ => ⟨0, trivial⟩
  exact run_induction (P := fun s => ∀ client, ∃ limit, (s.running client).Asks
    (Request.Lawful layout limit)) hstart
    fun before e hp ih => asks_next ih (he e (hp.subset (by simp)))

omit [DecidableEq Client] in
/-- Two calls of one client that are under way at the same event are one call. -/
theorem eq_of_append_call {before before' mid mid' : List (Event Client)} {client : Client}
    {ttl ttl' : Nat} {op op' : Operation}
    (h : before ++ .call client ttl op :: mid = before' ++ .call client ttl' op' :: mid')
    (ha : ∀ ttl op, .call client ttl op ∉ mid) (ha' : ∀ ttl op, .call client ttl op ∉ mid') :
    before = before' := by
  obtain ⟨more, rfl, hmid⟩ | ⟨more, rfl, hmid⟩ := List.append_eq_append_iff.1 h
  · cases more with
    | nil => exact (List.append_nil before).symm
    | cons e more =>
      obtain ⟨-, rfl⟩ := List.cons.inj hmid
      exact absurd (by simp) (ha ttl' op')
  · cases more with
    | nil => exact List.append_nil before'
    | cons e more =>
      obtain ⟨-, rfl⟩ := List.cons.inj hmid
      exact absurd (by simp) (ha' ttl op)

/-- No two events of a run make the same write. -/
theorem eq_of_length_statusWrites {job : String} {before before' : List (Event Client)}
    {e e' : Event Client} (h : before ++ [e] <+: events) (h' : before' ++ [e'] <+: events)
    {w w' : StatusWrite}
    (hw : statusWrites layout job (before ++ [e]) = statusWrites layout job before ++ [w])
    (hw' : statusWrites layout job (before' ++ [e']) = statusWrites layout job before' ++ [w'])
    (hn : (statusWrites layout job before).length = (statusWrites layout job before').length) :
    before ++ [e] = before' ++ [e'] := by
  have hapart : ∀ {before before' : List (Event Client)} {e : Event Client} {w : StatusWrite},
      statusWrites layout job (before ++ [e]) = statusWrites layout job before ++ [w] →
      before ++ [e] <+: before' →
      (statusWrites layout job before).length < (statusWrites layout job before').length := by
    intro before before' e w hw hp
    have hle := (statusWrites_mono layout job hp).length_le
    rwa [hw, List.length_append, List.length_singleton] at hle
  rcases List.prefix_or_prefix_of_prefix h h' with hp | hp
  · rcases List.prefix_concat_iff.1 hp with heq | hp
    · exact heq
    · exact absurd hn (Nat.ne_of_lt (hapart hw hp))
  · rcases List.prefix_concat_iff.1 hp with heq | hp
    · exact heq.symm
    · exact absurd hn.symm (Nat.ne_of_lt (hapart hw' hp))

namespace Accepted

variable {job : String} {a b : Accepted layout events job} {n m : Nat}

/-- The events until an event of the call. -/
theorem prefix_of_during (a : Accepted layout events job) {mid rest : List (Event Client)}
    {e : Event Client} (h : a.during = mid ++ e :: rest) :
    a.before ++ a.event :: mid ++ [e] <+: events := by
  refine List.IsPrefix.trans ⟨rest, ?_⟩ a.happens
  rw [h, event]
  simp

/-- A call that has succeeded has made a write. -/
theorem exists_wrote (he : ∀ e ∈ events, ∃ limit, e.Lawful limit)
    (a : Accepted layout events job) : ∃ n, a.Wrote n := by
  obtain ⟨t, hpath⟩ := a.ok
  obtain ⟨current, hswap⟩ := (addState_ok_iff hpath).1 ⟨t, rfl⟩
  obtain ⟨x, hx, happ⟩ := List.mem_filterMap.1 hswap
  obtain ⟨mid, e, rest, hduring, hx⟩ := exists_of_mem_exchanges hx
  have hrun : ((({} : System Client).run layout a.before).next layout a.event).run layout mid =
      ({} : System Client).run layout (a.before ++ a.event :: mid) := by
    rw [run, run, run, List.foldl_append]
    rfl
  have hlaw := asks_run layout (fun e hm => he e
    ((a.prefix_of_during hduring).subset (List.mem_append_left _ hm))) a.client
  obtain ⟨now, op, rfl, hop, hwrite⟩ := write_of_applied? hlaw (hrun ▸ hx) happ
  refine ⟨_, mid, now, rest, current.name, hduring, rfl, ?_⟩
  have hname : layout.pools.status a.key.text = layout.pools.status job :=
    congrArg _ a.names
  rw [statusWrites_concat hop, ← hname]
  exact congrArg (fun w => _ ++ Option.toList w) hwrite

namespace Wrote

theorem getElem? (h : a.Wrote n) :
    ∃ current, (statusWrites layout job events)[n]? = some (.swapped current a.state.name) := by
  obtain ⟨mid, now, rest, current, hduring, rfl, hwrite⟩ := h
  obtain ⟨more, hmore⟩ := statusWrites_mono layout job (a.prefix_of_during hduring)
  refine ⟨current, ?_⟩
  rw [← hmore, hwrite]
  simp

/-- A write is made by one call only. -/
theorem before_eq (ha : a.Wrote n) (hb : b.Wrote n) : a.before = b.before := by
  obtain ⟨mid, now, rest, current, hduring, rfl, hwrite⟩ := ha
  obtain ⟨mid', now', rest', current', hduring', hn, hwrite'⟩ := hb
  have heq := eq_of_length_statusWrites (a.prefix_of_during hduring) (b.prefix_of_during hduring')
    hwrite hwrite' hn
  obtain ⟨hbegun, hstep⟩ := List.append_inj' heq rfl
  have hclient : a.client = b.client := (Event.step.inj (List.cons.inj hstep).1).1
  rw [event, event, ← hclient] at hbegun
  refine eq_of_append_call hbegun (fun ttl op hm => ?_) fun ttl op hm => ?_
  · exact a.alone ttl op (hduring ▸ List.mem_append_left _ hm)
  · exact b.alone ttl op (hduring' ▸ List.mem_append_left _ (hclient ▸ hm))

end Wrote

end Accepted

/-- However the calls of any number of clients interleave, and whenever time passes, the status of a
job changes along the transition table only. Once the job has ended, its status stays as it is
until the job is pushed again. A call that would move the job succeeds if and only if a swap of its
own was applied; that is a write of its own, and if the call ends the job, no other call moves it
before the push that is the next write. So between two pushes at most one of the calls that would
end the job succeeds. -/
theorem run_history
    (h : ∀ client ttl key, Event.call client ttl (.addState key .starting) ∉ events)
    (job : String) :
    let name := layout.pools.status job
    let operations := ({} : System Client).operations layout events
    let writes := ({} : InProcess).writes name operations
    (({} : System Client).run layout events).store = ({} : InProcess).run operations ∧
      (∀ before op, before ++ [op] <+: operations →
        Changes (({} : InProcess).run before) op name) ∧
      (∀ before w mid after, writes = before ++ w :: (mid ++ after) → w.ends = true →
        .queued ∉ mid → mid = []) ∧
      (∀ before mid after, writes = before ++ mid ++ after → .queued ∉ mid →
        mid.countP StatusWrite.ends ≤ 1) ∧
      (∀ before client ttl key state during,
        before ++ .call client ttl (.addState key state) :: during <+: events →
        (({} : System Client).run layout before).idle client = true →
        (∀ ttl op, .call client ttl op ∉ during) →
        (((({} : System Client).run layout before).next layout
          (.call client ttl (.addState key state))).run layout during).idle client = true →
        let trace := ((({} : System Client).run layout before).next layout
          (.call client ttl (.addState key state))).exchanges layout client during
        ∃ result, (addState ⟨layout, ttl⟩ key state).Path trace (.done result) ∧
          ((∃ t, result = .ok t) ↔
            ∃ current, swapOf ⟨layout, ttl⟩ key current state ∈ trace.filterMap applied?)) ∧
      ∃ own : Accepted layout events job → Nat, ∀ a, a.Wrote (own a) ∧
        (∃ current, writes[own a]? = some (.swapped current a.state.name)) ∧
        ∀ b, a.state.isTerminal = true → own a ≤ own b → a.before = b.before ∨
          (own a + 1 < own b ∧ writes[own a + 1]? = some .queued) := by
  intro name operations writes
  have he : ∀ e ∈ events, ∃ limit, e.Lawful limit := by
    intro e hmem
    cases e with
    | call client ttl op =>
      cases op with
      | push key => exact ⟨0, trivial⟩
      | start max => exact ⟨max, Nat.le_refl _⟩
      | addState key state => exact ⟨0, fun hs => h client ttl key (hs ▸ hmem)⟩
    | step client now => exact ⟨0, trivial⟩
    | advance ms => exact ⟨0, trivial⟩
  have hlaw : ∀ op ∈ operations, LawfulEvent layout op :=
    lawful_operations (fun client => ⟨0, trivial⟩) he
  have hhist := history_writes hlaw job
  choose own hown using fun a : Accepted layout events job => a.exists_wrote he
  refine ⟨store_run _ _, fun before op hp => ?_, fun before w mid after hs hw hm =>
    hhist.eq_nil_of_ends hw hm hs, fun before mid after hs hm => hhist.countP_ends_le hm hs,
    fun before client ttl key state during _ hidle hcall hend =>
      addState_returns layout hidle hcall hend,
    own, fun a => ⟨hown a, (hown a).getElem?, fun b ht hle => ?_⟩⟩
  · obtain ⟨lane, hf, ha⟩ := exists_lane fun e hmem =>
      hlaw e (hp.subset (List.mem_append_left _ hmem))
    exact changes hf ha (hlaw op (hp.subset (by simp))) job
  · rcases Nat.eq_or_lt_of_le hle with heq | hlt
    · exact .inl ((hown a).before_eq (heq ▸ hown b))
    · obtain ⟨current, ha⟩ := (hown a).getElem?
      obtain ⟨current', hb⟩ := (hown b).getElem?
      have hlength := (List.getElem?_eq_some_iff.1 hb).1
      have hpush : writes[own a + 1]? = some .queued :=
        hhist.queued_of_ends ha (StatusWrite.ends_of_text rfl ht) (Nat.lt_of_le_of_lt hlt hlength)
      refine .inr ⟨Nat.lt_of_le_of_ne hlt fun e => ?_, hpush⟩
      cases (e ▸ hpush).symm.trans hb

/-- Two clients find a job at work, and both would end it. -/
def contended : List (Event Bool) :=
  [.call true 50 (.push (rival "1")), .step true 0, .step true 0,
    .call true 50 (.start 1), .step true 1, .step true 1,
    .call true 50 (.addState (rival "1") .started), .step true 2, .step true 2, .step true 2,
    .call true 50 (.addState (rival "1") .failure), .step true 3,
    .call false 50 (.addState (rival "1") .timeout), .step false 4,
    .step false 5, .step false 5, .step true 6, .advance 9]

theorem run_history_raced :
    let writes := ({} : InProcess).writes ((KeyLayout.mk "builds").pools.status (rival "1").text)
      (({} : System Bool).operations ⟨"builds"⟩ contended)
    writes = [.queued, .admitted, .swapped "STARTING" "STARTED", .swapped "STARTED" "TIMEOUT"] ∧
      ∀ before mid after, writes = before ++ mid ++ after → .queued ∉ mid →
        mid.countP StatusWrite.ends ≤ 1 :=
  ⟨by decide +kernel,
    (@run_history ⟨"builds"⟩ Bool _ contended (by simp [contended]) (rival "1").text).2.2.2.1⟩

end BuildQueue.Ledger.System
