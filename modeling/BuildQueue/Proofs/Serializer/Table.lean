import BuildQueue.Proofs.Serializer.Turns
import Mathlib.Data.Set.Card

/-!
# The table of slots

Calls arrive, take their turn, finish and are given up in any order (`Step`); which of the calls of a
key takes the turn is left open, since the table does not depend on it. After all steps the table
holds the keys of the live calls, each of these calls has a claim on the very slot that the table
holds, and the slot is counted once more than there are such calls (`table_exact`). So a key goes out of
the table with the last of its calls.
-/

namespace BuildQueue.Serializer

/-- A step of a call. -/
inductive Step where
  | arrive (call : Nat) (key : String)
  /-- The call gets the turn and starts to work. -/
  | take (call : Nat)
  | finish (call : Nat)
  /-- The call is given up while it works or waits. -/
  | cancel (call : Nat)
  deriving DecidableEq, Repr

namespace Step

/-- The call that makes a step. -/
def call : Step → Nat
  | arrive call _ | take call | finish call | cancel call => call

/-- What a step is to the table and the slots. A call that takes the turn has its claim already. -/
def event? : Step → Option Event
  | arrive call key => some (.arrive call key)
  | take _ => none
  | finish call => some (.finish call)
  | cancel call => some (.cancel call)

/-- What can follow the given steps: a call arrives before all else that it does, and does nothing
more when it has finished or was given up. -/
def Possible (before : List Step) : Step → Prop
  | arrive call _ => ∀ step ∈ before, step.call ≠ call
  | take call | finish call | cancel call =>
    (∃ step ∈ before, step.call = call) ∧ .finish call ∉ before ∧ .cancel call ∉ before

instance (before : List Step) : DecidablePred (Possible before)
  | arrive call _ => inferInstanceAs (Decidable (∀ step ∈ before, step.call ≠ call))
  | take call | finish call | cancel call =>
    inferInstanceAs (Decidable ((∃ step ∈ before, step.call = call) ∧ _))

end Step

/-- The call has arrived with this key and has neither finished nor been given up. -/
def IsLive (steps : List Step) (call : Nat) (key : String) : Prop :=
  .arrive call key ∈ steps ∧ .finish call ∉ steps ∧ .cancel call ∉ steps

/-- The serializer after steps that are made one after the other. -/
def after (steps : List Step) : Serializer := run (steps.filterMap Step.event?)

/-- The live calls with their keys after steps, in order of arrival. -/
def liveAfter (steps : List Step) : List (Nat × String) := live (steps.filterMap Step.event?)

/-- The table, the claims and the counts are those of the live calls. -/
structure Exact (steps : List Step) : Prop where
  /-- A key is in the table as long as it has live calls. -/
  known : ∀ key, key ∈ (after steps).table ↔ ∃ call, IsLive steps call key
  /-- The calls with a claim on the slot of a key are the live calls of the key. -/
  held : ∀ (key : String) (n : Nat), (after steps).table[key]? = some n → ∀ call : Nat,
    (after steps).claims[call]?.map Claim.slot = some n ↔ IsLive steps call key
  /-- The slot of a key is counted once more than the key has live calls. -/
  count : ∀ (key : String) (n : Nat), (after steps).table[key]? = some n →
    (after steps).slots[n]?.map Slot.count = some ({call | IsLive steps call key}.ncard + 1)
  pending : (after steps).pendingKeys = {key | ∃ call, IsLive steps call key}.ncard
  /-- A call that leaves takes its key out of the table if it is the last of the key, and changes
  nothing else in it. -/
  leaves : ∀ call key step, IsLive steps call key → step = .finish call ∨ step = .cancel call →
    (key ∉ (after (steps ++ [step])).table ↔ ∀ other, IsLive steps other key → other = call) ∧
    ∀ k, k ∈ (after (steps ++ [step])).table ∨ k ≠ key →
      (after (steps ++ [step])).table[k]? = (after steps).table[k]?

section Steps

variable {steps : List Step} {step : Step} {call : Nat} {key : String}

theorem liveAfter_concat (steps : List Step) (step : Step) : liveAfter (steps ++ [step]) =
    match step.event? with
    | some e => e.update (liveAfter steps)
    | none => liveAfter steps := by
  cases h : step.event? <;> simp [liveAfter, List.filterMap_append, h, live_concat]

theorem after_concat (steps : List Step) (step : Step) : after (steps ++ [step]) =
    match step.event? with
    | some e => (after steps).apply e
    | none => after steps := by
  cases h : step.event? <;> simp [after, List.filterMap_append, h, run_concat]

theorem isLive_concat : IsLive (steps ++ [step]) call key ↔
    (.arrive call key ∈ steps ∨ .arrive call key = step) ∧
      (.finish call ∉ steps ∧ .finish call ≠ step) ∧ .cancel call ∉ steps ∧ .cancel call ≠ step := by
  simp [IsLive]

/-- A call that has made a step has arrived. -/
theorem exists_arrive (h : Everywhere Step.Possible steps) (hs : step ∈ steps) :
    ∃ key, .arrive step.call key ∈ steps := by
  induction steps using List.reverseRecOn generalizing step with
  | nil => cases hs
  | append_singleton steps last ih =>
    obtain ⟨h, hlast⟩ := everywhere_concat.1 h
    have hearlier : ∀ s ∈ steps, ∃ key, .arrive s.call key ∈ steps ++ [last] := fun s hs =>
      (ih h hs).imp fun key hm => List.mem_append_left _ hm
    rcases List.mem_append.1 hs with hs | hs
    · exact hearlier step hs
    · obtain rfl := List.mem_singleton.1 hs
      cases step with
      | arrive call key => exact ⟨key, List.mem_append_right _ hs⟩
      | take call | finish call | cancel call =>
        obtain ⟨⟨earlier, hm, rfl⟩, -⟩ := hlast
        exact hearlier earlier hm

/-- A call that leaves is not live, and the others stay what they are. -/
theorem isLive_of_leaves (hleave : step = .finish call ∨ step = .cancel call) (other : Nat) :
    IsLive (steps ++ [step]) other key ↔ IsLive steps other key ∧ other ≠ call := by
  rw [isLive_concat]
  rcases hleave with rfl | rfl <;> simp [IsLive] <;> tauto

/-- A call that arrives is live with its key, and the others stay what they are. -/
theorem isLive_of_arrives {new : Nat} {k : String}
    (hnew : ∀ step ∈ steps, step.call ≠ new) :
    IsLive (steps ++ [.arrive new k]) call key ↔ IsLive steps call key ∨ call = new ∧ key = k := by
  have hgone : .finish new ∉ steps ∧ .cancel new ∉ steps :=
    ⟨fun hm => hnew _ hm rfl, fun hm => hnew _ hm rfl⟩
  rw [isLive_concat]
  by_cases e : call = new
  · subst e
    simp [IsLive, hgone]
  · simp [IsLive, e]

/-- The calls that are kept account of are the live ones. -/
theorem mem_liveAfter (h : Everywhere Step.Possible steps) :
    (call, key) ∈ liveAfter steps ↔ IsLive steps call key := by
  induction steps using List.reverseRecOn with
  | nil => simp [liveAfter, live, IsLive]
  | append_singleton steps last ih =>
    obtain ⟨h, hlast⟩ := everywhere_concat.1 h
    have ih := ih h
    rw [liveAfter_concat]
    cases last with
    | arrive new k =>
      rw [isLive_of_arrives hlast, ← ih]
      simp [Step.event?, Event.update]
    | take new => simpa [Step.event?, IsLive] using ih
    | finish gone =>
      rw [isLive_of_leaves (.inl rfl), ← ih]
      exact mem_without
    | cancel gone =>
      rw [isLive_of_leaves (.inr rfl), ← ih]
      exact mem_without

/-- The slots and claims are those of the live calls after all steps. -/
theorem serves_after (h : Everywhere Step.Possible steps) :
    (after steps).Serves (liveAfter steps) := by
  induction steps using List.reverseRecOn with
  | nil => exact .empty
  | append_singleton steps last ih =>
    obtain ⟨hbefore, hlast⟩ := everywhere_concat.1 h
    have hs := ih hbefore
    have hlive : ∀ call, (∃ step ∈ steps, step.call = call) ∧ .finish call ∉ steps ∧
        .cancel call ∉ steps → ∃ key, (call, key) ∈ liveAfter steps := by
      rintro _ ⟨⟨step, hm, rfl⟩, hgone⟩
      obtain ⟨key, harrive⟩ := exists_arrive hbefore hm
      exact ⟨key, (mem_liveAfter hbefore).2 ⟨harrive, hgone⟩⟩
    rw [after_concat, liveAfter_concat]
    cases last with
    | arrive call key =>
      refine hs.arrive (fun hm => ?_) key
      obtain ⟨⟨c, k⟩, hc, rfl⟩ := List.mem_map.1 hm
      exact hlast (.arrive c k) ((mem_liveAfter hbefore).1 hc).1 rfl
    | take call => exact hs
    | finish call | cancel call =>
      obtain ⟨key, hc⟩ := hlive call hlast
      exact hs.leave hc

/-- The live calls of a key are as many as are in its line. -/
theorem ncard_live (h : Everywhere Step.Possible steps) (key : String) :
    {call | IsLive steps call key}.ncard = (lineOf (liveAfter steps) key).length := by
  have hset : {call | IsLive steps call key} = ↑(lineOf (liveAfter steps) key).toFinset := by
    ext call
    simp [mem_lineOf, mem_liveAfter h]
  rw [hset, Set.ncard_coe_finset,
    List.toFinset_card_of_nodup (nodup_lineOf (serves_after h).nodup key)]

theorem mem_table_iff (h : Everywhere Step.Possible steps) (key : String) :
    key ∈ (after steps).table ↔ ∃ call, IsLive steps call key := by
  rw [Std.TreeMap.mem_iff_isSome_getElem?, ← Option.ne_none_iff_isSome, ne_eq,
    (serves_after h).known key, List.eq_nil_iff_forall_not_mem, not_forall]
  simp [mem_lineOf, mem_liveAfter h]

theorem pendingKeys_eq (h : Everywhere Step.Possible steps) :
    (after steps).pendingKeys = {key | ∃ call, IsLive steps call key}.ncard := by
  have hset : {key | ∃ call, IsLive steps call key} = ↑(after steps).table.keys.toFinset := by
    ext key
    simp [← mem_table_iff h]
  rw [hset, Set.ncard_coe_finset, List.toFinset_card_of_nodup Std.TreeMap.nodup_keys,
    Std.TreeMap.length_keys, pendingKeys]

/-- The table has just the keys of the live calls, which hold its slots, and the counts say how many
they are. -/
theorem table_exact (h : Everywhere Step.Possible steps) : Exact steps := by
  have hs := serves_after h
  constructor
  case known => exact mem_table_iff h
  case held =>
    intro key n hn call
    rw [← mem_liveAfter h, Option.map_eq_some_iff]
    constructor
    · rintro ⟨⟨k, m⟩, hclaim, rfl⟩
      obtain ⟨hc, hk⟩ := (hs.claim call _).1 hclaim
      exact hs.apart k key m hk hn ▸ hc
    · intro hc
      exact ⟨⟨key, n⟩, (hs.claim call _).2 ⟨hc, hn⟩, rfl⟩
  case count =>
    intro key n hn
    rw [hs.slot key n hn, ncard_live h]
    rfl
  case pending => exact pendingKeys_eq h
  case leaves =>
    intro call key step hlive hleave
    have hc := (mem_liveAfter h).2 hlive
    have hafter : after (steps ++ [step]) = ((after steps).leave call).2 := by
      rw [after_concat]
      rcases hleave with rfl | rfl <;> rfl
    have hlast : lineOf (without (liveAfter steps) call) key = [] ↔
        ∀ other, IsLive steps other key → other = call := by
      simp only [List.eq_nil_iff_forall_not_mem, mem_lineOf, mem_without, mem_liveAfter h, not_and,
        ne_eq, not_not]
    obtain ⟨n, hn, -⟩ := hs.exists_slot hc
    simp only [hafter, Std.TreeMap.mem_iff_isSome_getElem?, hs.table_leave hc]
    constructor
    · simpa [hn] using hlast
    · intro k hk
      rw [if_neg]
      rintro ⟨rfl, hnone⟩
      simp [hnone] at hk

end Steps

/-- The first call of a key is given up while it works and the second one while it waits. The third
one finishes as the last, and a fourth one finds the key gone and gets a new slot. -/
def comeback : List Step :=
  [.arrive 0 "repo", .take 0, .arrive 1 "repo", .arrive 9 "docs", .cancel 0, .arrive 2 "repo",
    .cancel 1, .take 2, .take 9, .finish 2, .arrive 3 "repo"]

theorem table_exact_comeback : Everywhere Step.Possible comeback ∧ Exact comeback ∧
    (after (comeback.take 8)).table["repo"]? = some 0 ∧ "repo" ∉ (after (comeback.take 10)).table ∧
    (after comeback).table["repo"]? = some 2 ∧ (after comeback).pendingKeys = 2 :=
  have h : Everywhere Step.Possible comeback := by decide +kernel
  ⟨h, table_exact h, by decide +kernel, by decide +kernel, by decide +kernel, by decide +kernel⟩

end BuildQueue.Serializer
