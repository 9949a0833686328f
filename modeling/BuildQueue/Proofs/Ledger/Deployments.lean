import BuildQueue.Proofs.Ledger.Postings
import BuildQueue.Proofs.Ledger.Requests
import BuildQueue.Proofs.Store.Cells

/-!
# Deployments that share a store

Several deployments may keep their jobs in one store. Every name that a deployment uses starts with
its own name and a colon (`KeyLayout.Owns`), and no name starts so in two ways if the deployments'
own names hold no colon (`KeyLayout.Owns.root_unique`), whatever the fields of its keys are. So each
deployment sees of the store what it would see if it were alone (`outcomes_isolated`).
-/

namespace BuildQueue

open InProcess (PoolsIn OwnersIn AlikeOn Apart)

/-! ## Names of a deployment -/

namespace KeyLayout

/-- A name that starts with the deployment's own name and a colon. -/
def Owns (layout : KeyLayout) (name : String) : Prop :=
  ∃ rest, name.toList = layout.root.toList ++ ':' :: rest

/-- A name belongs to one deployment at most. -/
theorem Owns.root_unique {a b : KeyLayout} {name : String} (ha : ':' ∉ a.root.toList)
    (hb : ':' ∉ b.root.toList) (hna : a.Owns name) (hnb : b.Owns name) : a.root = b.root := by
  obtain ⟨resta, hresta⟩ := hna
  obtain ⟨restb, hrestb⟩ := hnb
  have hsplit := congrArg (Text.Fields.split ':') (hresta.symm.trans hrestb)
  rw [Text.Fields.split_append ha, Text.Fields.split_append hb] at hsplit
  exact String.toList_inj.1 (List.cons.inj hsplit).1

variable (layout : KeyLayout)

theorem poolsIn : PoolsIn layout.Owns layout.pools where
  ready := ⟨"ready".toList, by simp [pools]⟩
  active := ⟨"active".toList, by simp [pools]⟩
  owners := ⟨"owners".toList, by simp [pools]⟩
  labels := ⟨"labels".toList, by simp [pools]⟩
  status job := ⟨"status:".toList ++ job.toList, by simp [pools, PoolKeys.status]⟩

theorem owns_queue (key : JobKey) : layout.Owns (layout.queue key) := by
  refine ⟨(Text.Percent.encode key.source.id ++ ":" ++ Text.Percent.encode key.source.path ++
    ":local:" ++ key.queueId).toList, ?_⟩
  simp [queue]

end KeyLayout

/-! ## Requests of a deployment -/

namespace Prog.Asks

variable {I : Interface} {α σ : Type} {P : I.Request → Prop} {p : Prog I α}
  (serve : (r : I.Request) → σ → I.Reply r × σ)

theorem run_ask (r : I.Request) (next : I.Reply r → Prog I α) (s : σ) :
    (Prog.ask r next).run serve s = (next (serve r s).1).run serve (serve r s).2 := rfl

/-- What each request keeps, the run keeps. -/
theorem run_keeps (Inv : σ → Prop) (hserve : ∀ r s, P r → Inv s → Inv (serve r s).2)
    (hp : p.Asks P) {s : σ} (hs : Inv s) : Inv (p.run serve s).2 := by
  induction p generalizing s with
  | done a => exact hs
  | ask r next ih => exact ih _ (hp.2 _) (hserve r s hp.1 hs)

/-- Surroundings that answer each request alike give the run the same result. -/
theorem run_related (R : σ → σ → Prop) (hserve : ∀ r s t, P r → R s t →
      (serve r s).1 = (serve r t).1 ∧ R (serve r s).2 (serve r t).2)
    (hp : p.Asks P) {s t : σ} (h : R s t) :
    (p.run serve s).1 = (p.run serve t).1 ∧ R (p.run serve s).2 (p.run serve t).2 := by
  induction p generalizing s t with
  | done a => exact ⟨rfl, h⟩
  | ask r next ih =>
    obtain ⟨hreply, hnext⟩ := hserve r s t hp.1 h
    rw [run_ask, run_ask, ← hreply]
    exact ih _ (hp.2 _) hnext

end Prog.Asks

namespace Ledger

/-- A request of the deployment: it names only what the deployment owns. -/
def Request.Of (layout : KeyLayout) : Request → Prop
  | .store c => c.NamesIn layout.Owns ∧ c.Uses layout.pools
  | .post _ => True

theorem Call.asks (l : Ledger) (c : Call) : (c.program l).Asks (Request.Of l.layout) :=
  c.asks_of (fun _ => ⟨l.layout.poolsIn.status _, trivial⟩)
    (fun key => ⟨⟨l.layout.poolsIn, l.layout.owns_queue key⟩, rfl⟩)
    (fun _ => ⟨l.layout.poolsIn, rfl⟩)
    (fun key _ _ => ⟨⟨l.layout.poolsIn, l.layout.owns_queue key⟩, rfl⟩)
    (fun _ => ⟨l.layout.poolsIn, rfl⟩) fun _ => trivial

/-! ## Turns -/

/-- A call that a deployment makes, and what is read on the two clocks at each request of it: the
store's own and the caller's. -/
structure Turn where
  ledger : Ledger
  call : Call
  store : Nat → Nat
  caller : Nat → Int

/-- What a call gave back and what it posted. -/
structure Outcome where
  turn : Turn
  answer : turn.call.Answer
  posted : List Transition

/-- A call under way: how many requests it has made, and what they have taken effect on. -/
structure Progress where
  asked : Nat := 0
  surroundings : Surroundings

namespace Turn

/-- Answers a request of the call, at the times that it reads. -/
def serve (turn : Turn) (r : Request) (x : Progress) : Reply r × Progress :=
  let store := { x.surroundings.store with clock := turn.store x.asked }
  let (reply, w) := Ledger.serve (turn.caller x.asked) { x.surroundings with store } r
  (reply, ⟨x.asked + 1, w⟩)

/-- Makes the whole call on a store. -/
def take (turn : Turn) (s : InProcess) : Outcome × InProcess :=
  let (answer, x) := (turn.call.program turn.ledger).run turn.serve { surroundings.store := s }
  (⟨turn, answer, x.surroundings.posted⟩, x.surroundings.store)

/-- The deployment that makes the call. -/
def layout (turn : Turn) : KeyLayout := turn.ledger.layout

end Turn

/-- What comes of calls that are made one after the other on one store. -/
def outcomes : List Turn → InProcess → List Outcome
  | [], _ => []
  | turn :: turns, s => (turn.take s).1 :: outcomes turns (turn.take s).2

/-- The stores hold the same under the names of the deployment, whatever their times are. -/
def Agree (layout : KeyLayout) (s t : InProcess) : Prop :=
  ∀ name, layout.Owns name → s.cell name = t.cell name

/-- The table of owners of the deployment speaks of its own queues only. -/
abbrev Sound (layout : KeyLayout) (s : InProcess) : Prop :=
  OwnersIn layout.Owns layout.pools s

section Turns

variable {turn : Turn} {s t : InProcess}

/-- Two courses of one call that a deployment cannot tell apart. -/
structure Match (layout : KeyLayout) (x y : Progress) : Prop where
  asked : x.asked = y.asked
  posted : x.surroundings.posted = y.surroundings.posted
  agree : Agree layout x.surroundings.store y.surroundings.store
  sound : Sound layout x.surroundings.store

theorem Match.serve {x y : Progress} (h : Match turn.layout x y) {r : Request}
    (hr : r.Of turn.layout) : (turn.serve r x).1 = (turn.serve r y).1 ∧
      Match turn.layout (turn.serve r x).2 (turn.serve r y).2 := by
  obtain ⟨n, w⟩ := x
  obtain ⟨m, w'⟩ := y
  obtain rfl : n = m := h.asked
  cases r with
  | post transition => exact ⟨rfl, rfl, congrArg (· ++ [transition]) h.posted, h.agree, h.sound⟩
  | store c =>
    have halike : AlikeOn turn.layout.Owns { w.store with clock := turn.store n }
        { w'.store with clock := turn.store n } := ⟨rfl, h.agree⟩
    have hsound : Sound turn.layout { w.store with clock := turn.store n } := h.sound
    obtain ⟨hanswer, hstore⟩ := halike.perform hr.1 hr.2 hsound (turn.caller n)
    exact ⟨congrArg Except.ok hanswer, rfl, h.posted, hstore.cell,
      hsound.perform hr.1 hr.2 turn.layout.pools_distinct (turn.caller n)⟩

/-- A call comes to the same on two stores that its deployment cannot tell apart. -/
theorem Agree.take (h : Agree turn.layout s t) (hs : Sound turn.layout s) :
    (turn.take s).1 = (turn.take t).1 ∧ Agree turn.layout (turn.take s).2 (turn.take t).2 ∧
      Sound turn.layout (turn.take s).2 := by
  have hstart : Match turn.layout { surroundings.store := s } { surroundings.store := t } :=
    ⟨rfl, rfl, h, hs⟩
  obtain ⟨hanswer, hend⟩ := (turn.call.asks turn.ledger).run_related turn.serve
    (Match turn.layout) (fun r x y hr hxy => hxy.serve hr) hstart
  refine ⟨?_, hend.agree, hend.sound⟩
  simp only [Turn.take, hanswer, hend.posted]

/-- A call leaves everything as it was that its deployment does not own. -/
theorem take_apart (turn : Turn) (hs : Sound turn.layout s) :
    ∀ name, ¬ turn.layout.Owns name → s.cell name = (turn.take s).2.cell name := by
  have hkept := (turn.call.asks turn.ledger).run_keeps turn.serve
    (fun x => Sound turn.layout x.surroundings.store ∧
      ∀ name, ¬ turn.layout.Owns name → s.cell name = x.surroundings.store.cell name) ?_
    (s := { surroundings.store := s }) ⟨hs, fun _ _ => rfl⟩
  · exact hkept.2
  rintro r ⟨n, w⟩ hr ⟨hsound, hsame⟩
  cases r with
  | post transition => exact ⟨hsound, hsame⟩
  | store c =>
    have hsound : Sound turn.layout { w.store with clock := turn.store n } := hsound
    have hapart := InProcess.apart_perform hr.1 hr.2 hsound (turn.caller n)
    exact ⟨hsound.perform hr.1 hr.2 turn.layout.pools_distinct (turn.caller n),
      fun name hn => (hsame name hn).trans (hapart.cell name hn)⟩

/-- What a deployment owns is as it was after a call of another one. -/
theorem agree_take {layout : KeyLayout} (hl : ':' ∉ layout.root.toList)
    (ht : ':' ∉ turn.layout.root.toList) (hne : turn.layout.root ≠ layout.root)
    (hs : Sound turn.layout s) : Agree layout s (turn.take s).2 := fun name hn =>
  take_apart turn hs name fun hown => hne (hown.root_unique ht hl hn)

theorem Agree.sound {layout : KeyLayout} (h : Agree layout s t) (hs : Sound layout s) :
    Sound layout t := by
  have hfield : ∀ job, s.field? layout.pools.owners job = t.field? layout.pools.owners job := by
    intro job
    have htable := congrArg InProcess.Cell.table (h _ layout.poolsIn.owners)
    exact congrArg (fun table : Std.TreeMap String String => table[job]?) htable
  exact fun job queue hj => hs job queue ((hfield job).trans hj)

/-- A call leaves every table of owners in order. -/
theorem sound_take {s : InProcess} (ht : ':' ∉ turn.layout.root.toList)
    (hs : ∀ layout : KeyLayout, ':' ∉ layout.root.toList → Sound layout s) (layout : KeyLayout)
    (hl : ':' ∉ layout.root.toList) : Sound layout (turn.take s).2 := by
  by_cases he : turn.layout.root = layout.root
  · obtain rfl : turn.layout = layout := congrArg KeyLayout.mk he
    exact (Agree.take (fun _ _ => rfl) (hs _ hl)).2.2
  · exact (agree_take hl ht he (hs _ ht)).sound (hs layout hl)

end Turns

theorem outcomes_filter {root : String} (hroot : ':' ∉ root.toList) {turns : List Turn}
    (hturns : ∀ turn ∈ turns, ':' ∉ turn.layout.root.toList) {s t : InProcess}
    (hs : ∀ layout : KeyLayout, ':' ∉ layout.root.toList → Sound layout s)
    (h : Agree ⟨root⟩ s t) :
    (outcomes turns s).filter (·.turn.layout.root = root) =
      outcomes (turns.filter (·.layout.root = root)) t := by
  induction turns generalizing s t with
  | nil => rfl
  | cons turn turns ih =>
    obtain ⟨hturn, hrest⟩ := List.forall_mem_cons.1 hturns
    have hnext := sound_take hturn hs
    by_cases he : turn.layout.root = root
    · obtain rfl := he
      have hview : Agree turn.layout s t := h
      obtain ⟨hsame, hagree, -⟩ := hview.take (hs _ hturn)
      rw [outcomes, List.filter_cons_of_pos (by simp [Turn.take]),
        List.filter_cons_of_pos (by simp), outcomes, ih hrest hnext hagree, hsame]
    · have hagree : Agree ⟨root⟩ (turn.take s).2 t := fun name hn =>
        (agree_take hroot hturn he (hs _ hturn) name hn).symm.trans (h name hn)
      rw [outcomes, List.filter_cons_of_neg (by simp [Turn.take, he]),
        List.filter_cons_of_neg (by simp [he]), ih hrest hnext hagree]

/-- Deployments whose names hold no colon may share a store. Whatever calls they make, with whatever
keys, in whatever order and at whatever times: what each of them is given back and what it posts is
the same as when the calls of the others are left out. -/
theorem outcomes_isolated (root : String) (hroot : ':' ∉ root.toList) {turns : List Turn}
    (hturns : ∀ turn ∈ turns, ':' ∉ turn.layout.root.toList) :
    (outcomes turns {}).filter (·.turn.layout.root = root) =
      outcomes (turns.filter (·.layout.root = root)) {} := by
  refine outcomes_filter hroot hturns (fun layout _ job queue h => ?_) fun _ _ => rfl
  simp [InProcess.field?, InProcess.table] at h

/-- A repository with names that the layout of a store uses itself. -/
def awkward (id : String) : JobKey where
  source := ⟨"status", "local"⟩
  ref := .update id "ready:active"
  commit := (rival id).commit

/-- Two deployments push the same jobs into one store and start them. -/
theorem outcomes_isolated_shared :
    let turn (root : String) (call : Call) : Turn := ⟨⟨⟨root⟩, 50⟩, call, fun n => n, fun n => n⟩
    let turns := [turn "a" (.push (awkward "")), turn "status" (.push (awkward "")),
      turn "a" (.start 1), turn "status" (.push (awkward "a:status")), turn "a" (.pool .active)]
    (outcomes turns {}).filter (·.turn.layout.root = "a") =
      outcomes [turn "a" (.push (awkward "")), turn "a" (.start 1), turn "a" (.pool .active)] {} :=
  outcomes_isolated "a" (by decide) (by decide)

end Ledger

end BuildQueue
