import BuildQueue.Proofs.Store.Lazy

/-!
# Operations on different queues

A push, a completion and a swap look at one queue and the jobs in it, and change nothing else. As
long as each job is used with its own queue, two of them that work on different queues can change
places: both get the same replies, and the store holds the same afterwards (`run_commute`). Stores
that hold the same of the queue of an operation answer it alike (`SameOn.apply`), and an operation
leaves the other queues and their jobs as they are (`apply_off`).
-/

namespace BuildQueue

/-- The queue that an event works on, if it works on one. -/
def StoreEvent.queue? : StoreEvent → Option String
  | .call (.push queue _ _ _ _) _ => some queue
  | .call (.swap _ change _) _ => some change.queue
  | .complete queue _ _ _ => some queue
  | _ => none

namespace InProcess

variable {s t : InProcess} {pools : PoolKeys} {home : String → String} {Q J : String → Prop}
  {e : StoreEvent} {queue : String}

/-- Stores that hold the same of a queue and its jobs answer alike what is done to that queue, and
go on to hold the same of it. -/
theorem SameOn.apply (h : SameOn pools Q J s t) (he : e.Respects pools home)
    (hqueue : e.queue? = some queue) (hq : Q queue) (hin : s.Inside J queue)
    (hown : ∀ job, home job = queue → J job) :
    s.reply e = t.reply e ∧ SameOn pools Q J (s.apply e) (t.apply e) := by
  cases e with
  | call c now =>
    cases c with
    | push q p job label ttl =>
      obtain ⟨rfl, hhome⟩ := he
      obtain rfl := Option.some.inj hqueue
      obtain ⟨hreply, hstore⟩ :=
        h.push hq hin p (h.status? (hown job hhome.symm)) label ttl now
      exact ⟨congrArg StoreReply.push hreply, hstore⟩
    | swap p change ttl =>
      obtain ⟨rfl, hhome⟩ := he
      obtain rfl := Option.some.inj hqueue
      have hj := hown change.job hhome.symm
      obtain ⟨hreply, hstore⟩ := h.swap hq hin p hj rfl (h.status? hj) ttl now
      exact ⟨congrArg StoreReply.swap hreply, hstore⟩
    | start p max ttl => cases hqueue
    | status name => cases hqueue
    | pool p which => cases hqueue
  | complete q p job now =>
    obtain ⟨rfl, hhome⟩ := he
    obtain rfl := Option.some.inj hqueue
    obtain ⟨hheld, hstore⟩ := h.retire hq hin p (hown job hhome.symm) now
    exact ⟨congrArg StoreReply.complete hheld, hstore⟩
  | advance ms => cases hqueue

/-- What is done to a queue leaves the other queues and their jobs as they are. -/
theorem apply_off (he : e.Respects pools home) (hqueue : e.queue? = some queue) (hq : ¬ Q queue)
    (hout : s.Inside (¬ J ·) queue) (hown : ∀ job, home job = queue → ¬ J job) :
    SameOn pools Q J s (s.apply e) := by
  cases e with
  | call c now =>
    cases c with
    | push q p job label ttl =>
      obtain ⟨rfl, hhome⟩ := he
      obtain rfl := Option.some.inj hqueue
      exact s.push_off hq hout (hown job hhome.symm) label ttl now
    | swap p change ttl =>
      obtain ⟨rfl, hhome⟩ := he
      obtain rfl := Option.some.inj hqueue
      exact s.swap_off hq hout (hown change.job hhome.symm) rfl ttl now
    | start p max ttl => cases hqueue
    | status name => cases hqueue
    | pool p which => cases hqueue
  | complete q p job now =>
    obtain ⟨rfl, hhome⟩ := he
    obtain rfl := Option.some.inj hqueue
    exact s.retire_off hq hout p (hown job hhome.symm) now
  | advance ms => cases hqueue

/-- The jobs of a queue are its own. -/
theorem Follows.inside {lane : String → Lane} (h : s.Follows pools home lane) (queue : String) :
    s.Inside (home · = queue) queue := fun job hj => h.own queue job (h.queue queue ▸ hj)

/-! ## Two operations -/

/-- Whichever of two events comes first, both get the same replies, the store holds the same
afterwards, and nothing that happens later tells the difference. -/
structure Commute (s : InProcess) (a b : StoreEvent) : Prop where
  first : (s.apply b).reply a = s.reply a
  second : (s.apply a).reply b = s.reply b
  same : Same ((s.apply a).apply b) ((s.apply b).apply a)
  later : ∀ events,
    ((s.apply a).apply b).replies events = ((s.apply b).apply a).replies events
  /-- So it is in a store that has dropped expired statuses and goes on to do so as it looks. -/
  dropping : ∀ t, Same t s →
    (Lazy.step (Lazy.step t b).2 a).1 = (Lazy.step t a).1 ∧
      (Lazy.step (Lazy.step t a).2 b).1 = (Lazy.step t b).1 ∧
      Same (Lazy.step (Lazy.step t a).2 b).2 (Lazy.step (Lazy.step t b).2 a).2

/-- As far as the queues of `Q` and the jobs of `J` go, only the operation on one of them counts,
whether the other one comes before it or after. -/
theorem Follows.agree {lane : String → Lane} (h : s.Follows pools home lane)
    (hd : pools.Distinct) {a b : StoreEvent} (ha : a.Respects pools home)
    (hb : b.Respects pools home) {q r : String} (hqa : a.queue? = some q)
    (hrb : b.queue? = some r) (hq : Q q) (hr : ¬ Q r) (hJ : ∀ job, J job ↔ Q (home job)) :
    (s.apply b).reply a = s.reply a ∧
      SameOn pools Q J ((s.apply a).apply b) ((s.apply b).apply a) := by
  have hinside : ∀ job, home job = q → J job := fun job e => (hJ job).2 (e ▸ hq)
  have houtside : ∀ job, home job = r → ¬ J job := fun job e hj => hr (e ▸ (hJ job).1 hj)
  obtain ⟨laneA, hA⟩ := h.apply hd ha
  have hbefore : SameOn pools Q J s (s.apply b) :=
    apply_off hb hrb hr (fun job hj => houtside job (h.inside r job hj)) houtside
  have hafter : SameOn pools Q J (s.apply a) ((s.apply a).apply b) :=
    apply_off hb hrb hr (fun job hj => houtside job (hA.inside r job hj)) houtside
  obtain ⟨hreply, hstore⟩ :=
    hbefore.apply ha hqa hq (fun job hj => hinside job (h.inside q job hj)) hinside
  exact ⟨hreply.symm, hafter.symm.trans hstore⟩

/-- In every store that comes about with each job used with its own queue, operations on different
queues commute. -/
theorem run_commute (hd : pools.Distinct) {events : List StoreEvent}
    (he : ∀ e ∈ events, e.Respects pools home) {a b : StoreEvent} (ha : a.Respects pools home)
    (hb : b.Respects pools home) {q r : String} (hqa : a.queue? = some q)
    (hrb : b.queue? = some r) (hne : q ≠ r) : (({} : InProcess).run events).Commute a b := by
  obtain ⟨lane, h⟩ := Follows.empty.run hd he
  obtain ⟨hfirst, hhere⟩ := h.agree (Q := (· = q)) (J := (home · = q)) hd ha hb hqa hrb rfl
    hne.symm fun _ => Iff.rfl
  obtain ⟨hsecond, hthere⟩ := h.agree (Q := (¬ · = q)) (J := (¬ home · = q)) hd hb ha hrb hqa
    hne.symm (not_not_intro rfl) fun _ => Iff.rfl
  have hsame := hhere.same hthere.symm
  refine ⟨hfirst, hsecond, hsame, hsame.replies, fun t ht => ?_⟩
  obtain ⟨ha₁, hA⟩ := ht.lazyStep a
  obtain ⟨hb₁, hB⟩ := ht.lazyStep b
  obtain ⟨ha₂, hBA⟩ := hB.lazyStep a
  obtain ⟨hb₂, hAB⟩ := hA.lazyStep b
  exact ⟨by rw [ha₁, ha₂, hfirst], by rw [hb₁, hb₂, hsecond], (hAB.trans hsame).trans hBA.symm⟩

/-- The jobs of two queues have slots, and one more waits in one of the queues. -/
def sideBySide (pools : PoolKeys) : List StoreEvent :=
  [.call (.push "main" pools "a" "#1" 50) 0, .call (.start pools 2 50) 1,
    .call (.push "side" pools "b" "#2" 50) 2, .call (.start pools 2 50) 3,
    .call (.push "side" pools "c" "#3" 50) 4]

/-- The queue of a job of `sideBySide`. -/
def sideOf (job : String) : String := if job = "a" then "main" else "side"

theorem run_commute_sideBySide :
    let pools := (KeyLayout.mk "builds").pools
    let finish := StoreEvent.complete "main" pools "a" 5
    let cancel := StoreEvent.call
      (.swap pools ⟨"b", "side", "STARTING", "CANCELLED", true⟩ 50) 6
    let look := StoreEvent.call (.pool pools .ready) 7
    (({} : InProcess).run (sideBySide pools)).Commute finish cancel ∧
      (({} : InProcess).run (sideBySide pools)).replies [finish, cancel, look] =
        [.complete true, .swap (.applied true), .pool [⟨"c", some "#3", 6⟩]] ∧
      (({} : InProcess).run (sideBySide pools)).replies [cancel, finish, look] =
        [.swap (.applied true), .complete true, .pool [⟨"c", some "#3", 6⟩]] :=
  have he : ∀ e ∈ sideBySide (KeyLayout.mk "builds").pools,
      e.Respects (KeyLayout.mk "builds").pools sideOf := by
    simp [sideBySide, sideOf, StoreEvent.Respects, StoreCall.Respects]
  ⟨run_commute (KeyLayout.mk "builds").pools_distinct he ⟨rfl, rfl⟩ ⟨rfl, rfl⟩ rfl rfl (by decide),
    by decide +kernel, by decide +kernel⟩

end InProcess

end BuildQueue
