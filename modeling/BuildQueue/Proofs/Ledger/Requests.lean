import BuildQueue.Proofs.Ledger.Clients
import BuildQueue.Proofs.Ledger.Paths
import BuildQueue.Proofs.Store.Structure

/-!
# What the ledger asks for

Whatever a call of the ledger is answered, it uses each job with the queue of its deployment and
changes statuses along the transition table only (`Operation.asks`). It posts the end of a job right
after the swap that has ended it (`Rule`).
-/

namespace BuildQueue

/-- Whatever the program is answered, it asks for nothing but what `P` allows. -/
def Prog.Asks {I : Interface} {α : Type} (P : I.Request → Prop) : Prog I α → Prop
  | .done _ => True
  | .ask r next => P r ∧ ∀ x, (next x).Asks P

theorem Prog.Obeys.asks {I : Interface} {α : Type} {P : Option (Exchange I) → I.Request → Prop}
    {Q : I.Request → Prop} (hPQ : ∀ last r, P last r → Q r) {p : Prog I α}
    {last : Option (Exchange I)} (h : p.Obeys P last) : p.Asks Q := by
  induction p generalizing last with
  | done a => trivial
  | ask r next ih => exact ⟨hPQ _ _ h.1, fun x => ih x (h.2 x)⟩

namespace Prog.Asks

variable {I : Interface} {α β : Type} {P : I.Request → Prop}

theorem pure (a : α) : (Pure.pure a : Prog I α).Asks P := trivial

theorem bind {p : Prog I α} {f : α → Prog I β} (hp : p.Asks P) (hf : ∀ a, (f a).Asks P) :
    (p >>= f).Asks P := by
  induction p with
  | done a => exact hf a
  | ask r next ih => exact ⟨hp.1, fun x => ih x (hp.2 x)⟩

theorem mono {Q : I.Request → Prop} {p : Prog I α} (h : p.Asks P) (hPQ : ∀ r, P r → Q r) :
    p.Asks Q := by
  induction p with
  | done a => trivial
  | ask r next ih => exact ⟨hPQ r h.1, fun x => ih x (h.2 x)⟩

/-- What each request does to the state, the requests of a run do one after the other. -/
theorem isChain_visits {σ : Type} {serve : (r : I.Request) → σ → I.Reply r × σ} {R : σ → σ → Prop}
    (hserve : ∀ r s, P r → R s (serve r s).2) {p : Prog I α} (hp : p.Asks P) (s : σ) :
    (s :: (p.visits serve s).map Prod.snd).IsChain R := by
  induction p generalizing s with
  | done a => exact .singleton s
  | ask r next ih => exact .cons_cons (hserve r s hp.1) (ih _ (hp.2 _) _)

end Prog.Asks

namespace Ledger

/-- A request of a deployment in which no call starts more than `limit` jobs. -/
def Request.Lawful (layout : KeyLayout) (limit : Nat) : Request → Prop
  | .store (.push queue pools job _ _) =>
    pools = layout.pools ∧ ∃ key : JobKey, job = key.text ∧ queue = layout.queue key
  | .store (.start pools max _) => pools = layout.pools ∧ max ≤ limit
  | .store (.swap pools change _) =>
    pools = layout.pools ∧ ∃ (l : Ledger) (key : JobKey) (current next : QueueState),
      l.layout = layout ∧ change = l.swapOf key current next ∧ current.canBecome next ∧
        next ≠ .starting
  | .store (.status _) | .store (.pool _ _) | .post _ => True

/-- A lawful use of the store respects where its jobs are at home. -/
theorem Request.Lawful.respects {layout : KeyLayout} {limit : Nat} {c : StoreCall}
    (h : (Request.store c).Lawful layout limit) : c.Respects layout.pools layout.home := by
  cases c with
  | push queue pools job label ttl =>
    obtain ⟨rfl, key, rfl, rfl⟩ := h
    exact ⟨rfl, (layout.home_text key).symm⟩
  | start pools max ttl => exact h.1
  | swap pools change ttl =>
    obtain ⟨rfl, l, key, current, next, rfl, rfl, -⟩ := h
    exact ⟨rfl, (l.layout.home_text key).symm⟩
  | status name => trivial
  | pool pools which => trivial

/-- What the ledger may ask for, where jobs are moved only as `moves` says. An end of a job is
posted right after the swap that has ended it. -/
def Rule (layout : KeyLayout) (limit : Nat) (moves : JobKey → QueueState → Prop)
    (last : Option (Exchange interface)) : Request → Prop
  | .store c => (Request.store c).Lawful layout limit ∧ ∀ pools change ttl,
    c = .swap pools change ttl → ∃ (l : Ledger) (key : JobKey) (current next : QueueState),
      l.layout = layout ∧ change = l.swapOf key current next ∧ moves key next
  | .post t => t.state = .queued ∨ t.state = .starting ∨
    ∃ (l : Ledger) (current : QueueState) (held : Bool), l.layout = layout ∧
      last = some ⟨.store (.swap layout.pools (l.swapOf t.key current t.state) l.ttl),
        .ok (.applied held)⟩

variable {l : Ledger} {limit : Nat} {moves : JobKey → QueueState → Prop}
  {last : Option (Exchange interface)}

theorem Rule.weaken {layout : KeyLayout} {r : Request} (h : Rule layout limit moves none r) :
    Rule layout limit moves last r := by
  cases r with
  | store c => exact h
  | post t =>
    rcases h with h | h | ⟨_, _, _, _, e⟩
    · exact .inl h
    · exact .inr (.inl h)
    · cases e

theorem obeys_read (name : String) {α : Type} {f : Reply (.store (.status name)) → Prog interface α}
    (hf : ∀ x, (f x).Obeys (Rule l.layout limit moves) (some ⟨.store (.status name), x⟩)) :
    (Prog.ask (I := interface) (.store (.status name)) f).Obeys (Rule l.layout limit moves) last :=
  ⟨⟨trivial, fun _ _ _ e => by cases e⟩, hf⟩

theorem status_obeys (key : JobKey) :
    (l.status key).Obeys (Rule l.layout limit moves) last := by
  refine obeys_read _ fun raw => ?_
  cases raw <;> trivial

theorem apply_obeys {key : JobKey} {state : QueueState} (hm : moves key state)
    (hs : state ≠ .starting) (superseded : Bool) :
    (l.apply key state superseded).Obeys (Rule l.layout limit moves) last := by
  rw [apply_eq]
  refine obeys_read _ fun raw => ?_
  split
  · trivial
  · split
    · trivial
    · trivial
    · next current _ =>
      split
      · next hc =>
        refine ⟨⟨⟨rfl, l, key, current, state, rfl, rfl, hc, hs⟩, ?_⟩, fun reply => ?_⟩
        · rintro _ _ _ ⟨⟩
          exact ⟨l, key, current, state, rfl, rfl, hm⟩
        · rcases reply with e | held | found
          · trivial
          · exact ⟨.inr (.inr ⟨l, current, held, rfl, rfl⟩), fun _ => trivial⟩
          · trivial
      · trivial

theorem supersede_obeys (job : Option JobKey) {state : QueueState}
    (hm : ∀ key, moves key state) (hs : state ≠ .starting) :
    (l.supersede job state).Obeys (Rule l.layout limit moves) last := by
  cases job with
  | none => trivial
  | some key => exact .bind Rule.weaken (apply_obeys (hm key) hs true) fun _ => trivial

theorem post_obeys {t : Transition} (h : t.state = .queued ∨ t.state = .starting) :
    (post t).Obeys (Rule l.layout limit moves) last :=
  ⟨h.elim .inl fun h => .inr (.inl h), fun _ => trivial⟩

theorem push_obeys (key : JobKey) (hc : ∀ key, moves key .cancelled)
    (ha : ∀ key, moves key .aborted) :
    (l.push key).Obeys (Rule l.layout limit moves) last := by
  have hask : (ask (.push (l.layout.queue key) l.layout.pools key.text key.canonicalId
      l.ttl)).Obeys (Rule l.layout limit moves) last :=
    ⟨⟨⟨rfl, key, rfl, rfl⟩, fun _ _ _ e => by cases e⟩, fun _ => trivial⟩
  refine .bind Rule.weaken hask fun reply => ?_
  split
  · exact .pure _
  · split
    · exact .pure _
    · refine .bind Rule.weaken (post_obeys (.inl rfl)) fun _ => ?_
      split
      · exact .pure _
      · refine .bind Rule.weaken (supersede_obeys _ hc (by decide)) fun _ => ?_
        exact .bind Rule.weaken (supersede_obeys _ ha (by decide)) fun _ => .pure _

theorem announce_obeys (jobs : List String) :
    (announce jobs).Obeys (Rule l.layout limit moves) last := by
  induction jobs generalizing last with
  | nil => exact .pure _
  | cons raw rest ih =>
    rw [announce]
    split
    · exact ih
    · exact .bind Rule.weaken (post_obeys (.inr rfl)) fun _ =>
        .bind Rule.weaken ih fun _ => .pure _

theorem start_obeys {max : Nat} (h : max ≤ limit) :
    (l.start max).Obeys (Rule l.layout limit moves) last := by
  have hask : (ask (.start l.layout.pools max l.ttl)).Obeys (Rule l.layout limit moves) last :=
    ⟨⟨⟨rfl, h⟩, fun _ _ _ e => by cases e⟩, fun _ => trivial⟩
  refine .bind Rule.weaken hask fun reply => ?_
  split
  · exact .pure _
  · exact .bind Rule.weaken (announce_obeys _) fun _ => .pure _

/-- A call that starts no more than `limit` jobs and makes no job starting by itself. -/
def Operation.Lawful (limit : Nat) : Operation → Prop
  | .push _ => True
  | .start max => max ≤ limit
  | .addState _ state => state ≠ .starting

theorem Operation.asks {op : Operation} (h : op.Lawful limit) :
    (op.program l).Asks (Request.Lawful l.layout limit) := by
  have hrule : (op.program l).Obeys (Rule l.layout limit fun _ _ => True) none := by
    cases op with
    | push key =>
      exact .bind Rule.weaken (push_obeys key (fun _ => trivial) fun _ => trivial) fun _ => .pure _
    | start max => exact .bind Rule.weaken (start_obeys h) fun _ => .pure _
    | addState key state => exact .bind Rule.weaken (apply_obeys trivial h false) fun _ => .pure _
  refine hrule.asks fun last r hr => ?_
  cases r with
  | store c => exact hr.1
  | post t => trivial

/-! ## Requests call by call -/

section Asks

variable {l : Ledger} {P : Request → Prop}
  (hread : ∀ key, P (.store (.status (l.layout.status key))))
  (hswap : ∀ key current state,
    P (.store (.swap l.layout.pools (l.swapOf key current state) l.ttl)))
  (hpost : ∀ t, P (.post t))

include hread in
theorem status_asks (key : JobKey) : (l.status key).Asks P := by
  rw [status_eq]
  exact ⟨hread key, fun _ => trivial⟩

include hpost in
theorem post_asks (t : Transition) : (post t).Asks P := ⟨hpost t, fun _ => trivial⟩

include hread hswap hpost in
theorem apply_asks (key : JobKey) (state : QueueState) (superseded : Bool) :
    (l.apply key state superseded).Asks P := by
  rw [apply_eq]
  refine ⟨hread key, fun raw => ?_⟩
  dsimp only
  split
  · trivial
  · split
    · trivial
    · trivial
    · split
      · refine ⟨hswap key _ state, fun reply => ?_⟩
        rcases reply with e | _ | _
        · trivial
        · exact ⟨hpost _, fun _ => trivial⟩
        · trivial
      · trivial

include hread hswap hpost in
theorem supersede_asks (job : Option JobKey) (state : QueueState) :
    (l.supersede job state).Asks P := by
  cases job with
  | none => trivial
  | some key => exact (apply_asks hread hswap hpost key state true).bind fun _ => trivial

include hread hswap hpost in
theorem push_asks {key : JobKey} (hpush : P (.store (.push (l.layout.queue key) l.layout.pools
    key.text key.canonicalId l.ttl))) : (l.push key).Asks P := by
  have hask : (ask (.push (l.layout.queue key) l.layout.pools key.text key.canonicalId
      l.ttl)).Asks P := ⟨hpush, fun _ => trivial⟩
  refine hask.bind fun reply => ?_
  split
  · exact .pure _
  · split
    · exact .pure _
    · refine (post_asks hpost _).bind fun _ => ?_
      split
      · exact .pure _
      · refine (supersede_asks hread hswap hpost _ _).bind fun _ => ?_
        exact (supersede_asks hread hswap hpost _ _).bind fun _ => .pure _

include hpost in
theorem announce_asks (jobs : List String) : (announce jobs).Asks P := by
  induction jobs with
  | nil => exact .pure _
  | cons raw rest ih =>
    rw [announce]
    split
    · exact ih
    · exact (post_asks hpost _).bind fun _ => ih.bind fun _ => .pure _

include hpost in
theorem start_asks {max : Nat} (hstart : P (.store (.start l.layout.pools max l.ttl))) :
    (l.start max).Asks P := by
  have hask : (ask (.start l.layout.pools max l.ttl)).Asks P := ⟨hstart, fun _ => trivial⟩
  refine hask.bind fun reply => ?_
  split
  · exact .pure _
  · exact (announce_asks hpost _).bind fun _ => .pure _

end Asks

end Ledger

end BuildQueue
