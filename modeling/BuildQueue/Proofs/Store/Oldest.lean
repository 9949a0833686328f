import BuildQueue.Proofs.Store.Changes
import BuildQueue.Proofs.Store.Retirement
import BuildQueue.Proofs.Text.ByteOrder
import Mathlib.Data.List.Nodup

/-!
# A start takes the oldest jobs

The jobs of a pool are in the order of their times and names (`pairwise_members`). A start goes
through the ready ones in this order, up to the last job that it has room for (`Cut`): it admits
those that wait, drops the others, and leaves everybody else as they were (`Started`). So it passes
over no job that waits, although it looks at the queues of the jobs at work; and what it changes on
its way makes no job ready that was not ready before.
-/

namespace BuildQueue.InProcess

open Text (Utf8.encode Utf8.encode_lt_encode)

variable (s : InProcess) {pools : PoolKeys} {home : String → String} {ttl : Nat} {now : Int}

/-- The first one has joined the pool earlier, or at the same time and its name has smaller
bytes. -/
def Older (a b : String × Int) : Prop :=
  a.2 < b.2 ∨ (a.2 = b.2 ∧ Utf8.encode a.1.toList < Utf8.encode b.1.toList)

theorem inOrder_iff {a b : String × Int} :
    inOrder a b = true ↔ a.2 < b.2 ∨ (a.2 = b.2 ∧ a.1 ≤ b.1) := by
  simp [inOrder]

theorem older_of_inOrder {a b : String × Int} (h : inOrder a b = true) (hne : a ≠ b) :
    Older a b := by
  rcases inOrder_iff.1 h with hlt | ⟨hsince, hname⟩
  · exact .inl hlt
  · refine .inr ⟨hsince, Utf8.encode_lt_encode.2 (String.lt_iff_toList_lt.1 ?_)⟩
    exact lt_of_le_of_ne hname fun e => hne (Prod.ext e hsince)

/-- The members of a pool are in strict order. -/
theorem pairwise_members (pool : String) : (s.members pool).Pairwise Older := by
  have htrans : ∀ a b c : String × Int,
      inOrder a b = true → inOrder b c = true → inOrder a c = true := by
    intro a b c hab hbc
    rw [inOrder_iff] at hab hbc ⊢
    rcases hab with hab | ⟨hab, hab'⟩
    · exact .inl (by omega)
    · rcases hbc with hbc | ⟨hbc, hbc'⟩
      · exact .inl (by omega)
      · exact .inr ⟨hab.trans hbc, hab'.trans hbc'⟩
  have htotal : ∀ a b : String × Int, (inOrder a b || inOrder b a) = true := by
    intro a b
    rw [Bool.or_eq_true, inOrder_iff, inOrder_iff]
    rcases Int.lt_trichotomy a.2 b.2 with hlt | heq | hgt
    · exact .inl (.inl hlt)
    · exact (le_total a.1 b.1).imp (fun h => .inr ⟨heq, h⟩) fun h => .inr ⟨heq.symm, h⟩
    · exact .inr (.inl hgt)
  have hsorted : (s.members pool).Pairwise fun a b => inOrder a b = true :=
    List.pairwise_mergeSort htrans htotal _
  have hnodup : (s.members pool).Nodup := List.Nodup.of_map _ (s.nodup_map_members pool)
  exact hsorted.imp₂ (fun _ _ => older_of_inOrder) hnodup

/-! ## The cut -/

/-- The first jobs of a list, up to the `n`-th one for which `p` holds, or all of them if there are
fewer. -/
structure Cut (p : String → Bool) (n : Nat) (jobs taken : List String) : Prop where
  front : taken <+: jobs
  full : (taken = jobs ∧ taken.countP p < n) ∨
    (taken.countP p = n ∧ ∀ last ∈ taken.getLast?, p last = true)

namespace Cut

variable {p : String → Bool} {n : Nat} {job : String} {jobs taken : List String}

theorem none (p : String → Bool) (jobs : List String) : Cut p 0 jobs [] :=
  ⟨List.nil_prefix, .inr ⟨rfl, by simp⟩⟩

theorem all (p : String → Bool) (n : Nat) : Cut p n [] [] := by
  refine ⟨List.nil_prefix, ?_⟩
  cases n with
  | zero => exact .inr ⟨rfl, by simp⟩
  | succ n => exact .inl ⟨rfl, Nat.succ_pos n⟩

theorem cons_pos (h : Cut p n jobs taken) (hj : p job = true) :
    Cut p (n + 1) (job :: jobs) (job :: taken) := by
  refine ⟨(List.prefix_cons_inj job).2 h.front, ?_⟩
  rw [List.countP_cons_of_pos hj, List.getLast?_cons]
  rcases h.full with ⟨rfl, hlt⟩ | ⟨heq, hlast⟩
  · exact .inl ⟨rfl, Nat.succ_lt_succ hlt⟩
  · refine .inr ⟨congrArg _ heq, ?_⟩
    cases hg : taken.getLast? with
    | none => simpa using hj
    | some last => simpa using hlast last hg

theorem cons_neg (h : Cut p (n + 1) jobs taken) (hj : ¬ p job = true) :
    Cut p (n + 1) (job :: jobs) (job :: taken) := by
  refine ⟨(List.prefix_cons_inj job).2 h.front, ?_⟩
  rw [List.countP_cons_of_neg hj, List.getLast?_cons]
  rcases h.full with ⟨rfl, hlt⟩ | ⟨heq, hlast⟩
  · exact .inl ⟨rfl, hlt⟩
  · refine .inr ⟨heq, ?_⟩
    cases hg : taken.getLast? with
    | none =>
      rw [List.getLast?_eq_none_iff.1 hg] at heq
      cases heq
    | some last => simpa using hlast last hg

theorem congr {q : String → Bool} (h : Cut p n jobs taken) (hpq : ∀ job ∈ jobs, q job = p job) :
    Cut q n jobs taken := by
  have hsub : ∀ job ∈ taken, q job = p job := fun job hj => hpq job (h.front.subset hj)
  have hcount : taken.countP q = taken.countP p :=
    List.countP_congr fun job hj => by rw [hsub job hj]
  refine ⟨h.front, ?_⟩
  rw [hcount]
  exact h.full.imp_right fun ⟨heq, hlast⟩ => ⟨heq, fun last hl => by
    rw [hsub last (List.mem_of_getLast? hl)]
    exact hlast last hl⟩

end Cut

/-! ## The walk -/

/-- The live status of the job says that it waits. -/
def Waits (pools : PoolKeys) (job : String) : Bool :=
  s.status? (pools.status job) = some QueueState.queued.name

/-- What a start that admits some jobs and drops others has done to a store. -/
structure Started (s t : InProcess) (pools : PoolKeys) (ttl : Nat) (now : Int)
    (reply : StartReply) : Prop where
  active : ∀ job ∈ reply.admitted, t.score? pools.active job = some now ∧
    t.score? pools.ready job = none ∧
    t.statuses[pools.status job]? = some (QueueState.starting.name, s.clock + ttl)
  queues : ∀ q, t.queue q = (s.queue q).filter (· ∉ reply.stale)
  scores : ∀ p job, job ∉ reply.admitted → job ∉ reply.stale → t.score? p job = s.score? p job
  fields : ∀ n job, job ∉ reply.stale → t.field? n job = s.field? n job
  statuses : ∀ n, (∀ job ∈ reply.admitted, n ≠ pools.status job) →
    t.statuses[n]? = s.statuses[n]?
  clock : t.clock = s.clock

namespace Started

variable {s} {t u : InProcess} {reply : StartReply} {job : String}

theorem nothing (s : InProcess) (pools : PoolKeys) (ttl : Nat) (now : Int) :
    s.Started s pools ttl now ⟨[], []⟩ where
  active job hj := by cases hj
  queues q := by simp
  scores _ _ _ _ := rfl
  fields _ _ _ := rfl
  statuses _ _ := rfl
  clock := rfl

/-- A ready job is dropped, and then the rest of the start takes place. -/
theorem drop (h : (s.retire (home job) pools job now).2.Started t pools ttl now reply)
    {lane : String → Lane} (hf : s.Follows pools home lane) (hd : pools.Distinct)
    (hr : s.InPool pools.ready job) :
    s.Started t pools ttl now { reply with stale := job :: reply.stale } where
  active other ho := by
    have ha := h.active other ho
    rwa [clock_retire] at ha
  queues q := by
    rw [h.queues, (hf.retired hd job now).queues, List.filter_filter]
    refine List.filter_congr fun other _ => ?_
    simp [Bool.and_comm]
  scores p other ha hs := by
    obtain ⟨hne, hs⟩ := not_or.1 fun e => hs (List.mem_cons.2 e)
    rw [h.scores p other ha hs]
    exact (hf.retired hd job now).scores p other hne fun hb => hf.not_behind hr other hb.2
  fields n other hs := by
    obtain ⟨hne, hs⟩ := not_or.1 fun e => hs (List.mem_cons.2 e)
    rw [h.fields n other hs, (hf.retired hd job now).fields n other hne]
  statuses n hn := by rw [h.statuses n hn, statuses_retire]
  clock := by rw [h.clock, clock_retire]

/-- A job is given a slot, and then the rest of the start takes place. -/
theorem enter (h : (s.admitted pools job ttl now).Started t pools ttl now reply)
    (hd : pools.Distinct) (ha : job ∉ reply.admitted) (hs : job ∉ reply.stale) :
    s.Started t pools ttl now { reply with admitted := job :: reply.admitted } where
  active other ho := by
    rcases List.mem_cons.1 ho with rfl | ho
    · refine ⟨?_, ?_, ?_⟩
      · rw [h.scores _ _ ha hs]
        simp [admitted]
      · rw [h.scores _ _ ha hs]
        simp [admitted, hd.ready_ne_active]
      · have hout : ∀ j ∈ reply.admitted, pools.status other ≠ pools.status j := fun j hj e =>
          ha (by rwa [(status_inj pools).1 e])
        rw [h.statuses _ hout, admitted, statuses_setStatus, if_pos rfl]
        rfl
    · exact h.active other ho
  queues q := h.queues q
  scores p other ha' hs' := by
    obtain ⟨hne, ha'⟩ := not_or.1 fun e => ha' (List.mem_cons.2 e)
    rw [h.scores p other ha' hs']
    simp [admitted, hne]
  fields n other hs' := h.fields n other hs'
  statuses n hn := by
    obtain ⟨hne, hn⟩ := List.forall_mem_cons.1 hn
    rw [h.statuses n hn, admitted, statuses_setStatus, if_neg hne]
    rfl
  clock := h.clock

end Started

/-- A walk over ready jobs in closed form. -/
theorem Walk.closed {s t : InProcess} {lane lane' : String → Lane} {capacity : Nat}
    {jobs : List String} {reply : StartReply}
    (h : Walk pools home ttl now s lane capacity jobs reply t lane') (hd : pools.Distinct)
    (hn : jobs.Nodup) : ∃ taken, Cut (s.Waits pools) capacity jobs taken ∧
      reply = ⟨taken.filter (s.Waits pools), taken.filter fun job => !s.Waits pools job⟩ ∧
      s.Started t pools ttl now reply := by
  induction h with
  | full jobs => exact ⟨[], .none _ _, rfl, .nothing _ _ _ _⟩
  | done capacity => exact ⟨[], .all _ _, rfl, .nothing _ _ _ _⟩
  | @stale s t lane lane' room job rest reply hf hj hs _ ih =>
    obtain ⟨hjob, hrest⟩ := List.nodup_cons.1 hn
    obtain ⟨taken, hcut, hreply, ht⟩ := ih hrest
    have hw : ¬ s.Waits pools job = true := by simpa [Waits] using hs
    have hsame : (s.retire (home job) pools job now).2.Waits pools = s.Waits pools := by
      funext other
      simp [Waits]
    rw [hsame] at hcut hreply
    refine ⟨job :: taken, hcut.cons_neg hw, ?_, ht.drop hf hd ((hf.ready job).2 hj)⟩
    rw [hreply]
    simp [hw]
  | @enter s t lane lane' room job rest reply hf hj hs _ ih =>
    obtain ⟨hjob, hrest⟩ := List.nodup_cons.1 hn
    obtain ⟨taken, hcut, hreply, ht⟩ := ih hrest
    have hw : s.Waits pools job = true := by simpa [Waits] using hs
    have hsame : ∀ other ∈ rest, s.Waits pools other =
        (s.admitted pools job ttl now).Waits pools other := by
      intro other ho
      have hne : other ≠ job := fun e => hjob (e ▸ ho)
      rw [Waits, Waits, admitted, status?_setStatus_of_ne _ _ hne]
      rfl
    have hout : job ∉ taken := fun hm => hjob (hcut.front.subset hm)
    have htaken : ∀ other ∈ taken, s.Waits pools other =
        (s.admitted pools job ttl now).Waits pools other := fun other ho =>
      hsame other (hcut.front.subset ho)
    refine ⟨job :: taken, (hcut.congr hsame).cons_pos hw, ?_, ht.enter hd ?_ ?_⟩
    · rw [hreply]
      have hwait := List.filter_congr htaken
      have hgone := List.filter_congr fun other ho => congrArg (!·) (htaken other ho)
      simp [hw, hwait, hgone]
    · rw [hreply]
      exact fun hm => hout (List.mem_filter.1 hm).1
    · rw [hreply]
      exact fun hm => hout (List.mem_filter.1 hm).1

/-! ## The start -/

/-- However a store is used, as long as each job is used with its own queue, a start goes through
the ready jobs in order, up to the last one that it has room for. It admits those of them that wait
and drops the others. -/
theorem run_start_oldest (hd : pools.Distinct) {events : List StoreEvent}
    (he : ∀ e ∈ events, e.Respects pools home) (max ttl : Nat) (now : Int) :
    let s := ({} : InProcess).run events
    let room := max - (s.members pools.active).length
    let reply := (s.start pools max ttl now).1
    let t := (s.start pools max ttl now).2
    (room = 0 → reply = ⟨[], []⟩ ∧ t = s) ∧
      (s.members pools.ready).Pairwise Older ∧
      (∀ job since, (job, since) ∈ s.members pools.ready ↔
        s.score? pools.ready job = some since) ∧
      ∃ taken, Cut (s.Waits pools) room ((s.members pools.ready).map Prod.fst) taken ∧
        reply.admitted = taken.filter (s.Waits pools) ∧
        reply.stale = taken.filter (fun job => !s.Waits pools job) ∧
        s.Started t pools ttl now reply ∧ ∀ job ∈ reply.stale, t.Lacks pools job := by
  intro s room reply t
  obtain ⟨lane, hf⟩ := Follows.empty.run hd he
  obtain ⟨lane', hw⟩ := hf.walk_start hd max ttl now
  obtain ⟨taken, hcut, hreply, ht⟩ := hw.closed hd (s.nodup_map_members pools.ready)
  refine ⟨fun hroom => ?_, s.pairwise_members _, fun job since => s.mem_members, taken, hcut, ?_,
    ?_, ht, fun job hj => ?_⟩
  · have hnone : s.start pools max ttl now = (⟨[], []⟩, s) := by
      show admitReady pools ttl now s room _ _ = _
      rw [hroom]
      cases (s.members pools.ready).map Prod.fst <;> rfl
    exact ⟨congrArg Prod.fst hnone, congrArg Prod.snd hnone⟩
  · exact congrArg StartReply.admitted hreply
  · exact congrArg StartReply.stale hreply
  · refine (hw.follows hf hd).lacks fun hm => ?_
    rw [ht.queues, List.mem_filter] at hm
    exact of_decide_eq_true hm.2 hj

/-- The status of the oldest job has expired, and three more wait for two slots. -/
def waitingLine (pools : PoolKeys) : List StoreEvent :=
  [.call (.push "q:old" pools "old" "#0" 5) 0, .advance 10,
    .call (.push "q:c" pools "c" "#3" 50) 2, .call (.push "q:b" pools "b" "#2" 50) 1,
    .call (.push "q:a" pools "a" "#1" 50) 1]

theorem run_start_oldest_waitingLine :
    let pools := (KeyLayout.mk "builds").pools
    let s := ({} : InProcess).run (waitingLine pools)
    (∀ e ∈ waitingLine pools, e.Respects pools fun job => "q:" ++ job) ∧
      (s.members pools.ready).map Prod.fst = ["old", "a", "b", "c"] ∧
      (s.start pools 2 50 9).1 = ⟨["a", "b"], ["old"]⟩ ∧
      s.Started (s.start pools 2 50 9).2 pools 50 9 (s.start pools 2 50 9).1 := by
  intro pools s
  have he : ∀ e ∈ waitingLine pools, e.Respects pools fun job => "q:" ++ job := by
    simp [waitingLine, StoreEvent.Respects, StoreCall.Respects]
  obtain ⟨-, -, -, -, -, -, -, ht, -⟩ :=
    run_start_oldest (KeyLayout.mk "builds").pools_distinct he 2 50 9
  have hactive : s.members pools.active = [] := by
    have hlist : (s.poolMap pools.active).toList = [] := by decide +kernel
    rw [members, hlist, List.mergeSort_nil]
  have hready : (s.members pools.ready).map Prod.fst = ["old", "a", "b", "c"] := by
    have hlist : (s.poolMap pools.ready).toList = [("a", 1), ("b", 1), ("c", 2), ("old", 0)] := by
      decide +kernel
    rw [members, hlist]
    simp [List.mergeSort, List.MergeSort.Internal.splitInTwo, inOrder]
  have hstart : s.start pools 2 50 9 = admitReady pools 50 9 s 2 [] ["old", "a", "b", "c"] := by
    rw [start, hactive, hready]
    rfl
  refine ⟨he, hready, ?_, ht⟩
  rw [hstart]
  decide +kernel

end BuildQueue.InProcess
