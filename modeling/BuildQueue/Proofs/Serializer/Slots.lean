import BuildQueue.Serializer
import Mathlib.Data.List.Nodup

/-!
# Slots and claims

Calls arrive at a serializer and leave it, whether they are done or given up (`Event`). What has
happened says which calls are live and in which order they came (`live`, `lineOf`). The slots and
claims of the serializer are those of the live calls (`Serves`): a key has a slot as long as it has
live calls, all of them have a claim on that one slot, the slot is counted once more than there are
calls, and its line is that of their arrival. An arrival keeps it so and so does a call that leaves
(`Serves.arrive`, `Serves.leave`).
-/

namespace BuildQueue.Serializer

/-- What may happen to the calls of a serializer. -/
inductive Event where
  | arrive (call : Nat) (key : String)
  /-- The work of a call that has the turn is done. -/
  | finish (call : Nat)
  /-- A call is given up while it works or waits. -/
  | cancel (call : Nat)
  deriving DecidableEq, Repr

def apply (s : Serializer) : Event → Serializer
  | .arrive call key => s.arrive call key
  | .finish call | .cancel call => (s.leave call).2

/-- The serializer after events that happen one after the other. -/
def run (events : List Event) : Serializer := events.foldl apply {}

/-- The calls but for one. -/
def without (calls : List (Nat × String)) (call : Nat) : List (Nat × String) :=
  calls.filter (·.1 ≠ call)

/-- The live calls with their keys after one more event, in order of arrival. -/
def Event.update (calls : List (Nat × String)) : Event → List (Nat × String)
  | .arrive call key => calls ++ [(call, key)]
  | .finish call | .cancel call => without calls call

/-- The calls that have arrived and have neither finished nor been given up, in order of arrival. -/
def live (events : List Event) : List (Nat × String) := events.foldl Event.update []

/-- The calls of one key, in their order. -/
def lineOf (calls : List (Nat × String)) (key : String) : List Nat :=
  (calls.filter (·.2 = key)).map Prod.fst

theorem run_concat (events : List Event) (e : Event) : run (events ++ [e]) = (run events).apply e :=
  List.foldl_append

theorem live_concat (events : List Event) (e : Event) :
    live (events ++ [e]) = e.update (live events) :=
  List.foldl_append

/-! ## Lines -/

section Lines

variable {calls : List (Nat × String)} {call : Nat} {key : String}

theorem mem_lineOf : call ∈ lineOf calls key ↔ (call, key) ∈ calls := by
  simp [lineOf]

theorem lineOf_append (new k : String) : lineOf (calls ++ [(call, new)]) k =
    if k = new then lineOf calls k ++ [call] else lineOf calls k := by
  by_cases h : k = new
  · simp [lineOf, h]
  · simp [lineOf, h, Ne.symm h]

theorem mem_without {other : Nat} :
    (other, key) ∈ without calls call ↔ (other, key) ∈ calls ∧ other ≠ call := by
  simp [without]

theorem lineOf_without (call : Nat) (k : String) :
    lineOf (without calls call) k = (lineOf calls k).filter (· ≠ call) := by
  simp only [lineOf, without, List.filter_map, List.filter_filter]
  congr 2
  funext entry
  exact Bool.and_comm _ _

theorem nodup_lineOf (h : (calls.map Prod.fst).Nodup) (key : String) : (lineOf calls key).Nodup :=
  ((List.filter_sublist).map Prod.fst).nodup h

/-- A call has one key. -/
theorem key_unique (h : (calls.map Prod.fst).Nodup) {k k' : String} (hk : (call, k) ∈ calls)
    (hk' : (call, k') ∈ calls) : k = k' :=
  congrArg Prod.snd (List.inj_on_of_nodup_map h hk hk' rfl)

/-- Without one of its calls a line is shorter by one. -/
theorem length_filter_ne {line : List Nat} (h : line.Nodup) (hc : call ∈ line) :
    (line.filter (· ≠ call)).length + 1 = line.length := by
  have herase : line.erase call = line.filter (· ≠ call) := by
    rw [h.erase_eq_filter]
    exact List.filter_congr fun other _ => by simp [bne, beq_eq_decide]
  rw [← herase, List.length_erase_of_mem hc]
  have := List.length_pos_of_mem hc
  omega

end Lines

/-! ## What the serializer knows -/

/-- The slot of a key with these calls: the table holds it, and so does each call. -/
def slotOf (calls : List (Nat × String)) (key : String) : Slot :=
  ⟨(lineOf calls key).length + 1, lineOf calls key⟩

/-- The slots and claims are those of the given calls. -/
structure Serves (s : Serializer) (calls : List (Nat × String)) : Prop where
  nodup : (calls.map Prod.fst).Nodup
  /-- A call has a claim on the slot that the table has for its key. -/
  claim : ∀ (call : Nat) (c : Claim), s.claims[call]? = some c ↔
    (call, c.key) ∈ calls ∧ s.table[c.key]? = some c.slot
  /-- A key is known as long as it has calls. -/
  known : ∀ key : String, s.table[key]? = none ↔ lineOf calls key = []
  slot : ∀ (key : String) (n : Nat), s.table[key]? = some n → s.slots[n]? = some (slotOf calls key)
  /-- No two keys share a slot. -/
  apart : ∀ (key key' : String) (n : Nat), s.table[key]? = some n → s.table[key']? = some n →
    key = key'
  fresh : ∀ (key : String) (n : Nat), s.table[key]? = some n → n < s.next

namespace Serves

variable {s t : Serializer} {calls : List (Nat × String)} {call : Nat} {key : String}

theorem empty : Serves {} [] := by
  constructor <;> simp [lineOf]

variable (h : s.Serves calls)
include h

/-- A live call has a claim on the slot of its key. -/
theorem exists_slot (hc : (call, key) ∈ calls) : ∃ n, s.table[key]? = some n ∧
    s.claims[call]? = some ⟨key, n⟩ ∧ s.slots[n]? = some (slotOf calls key) := by
  have hne : s.table[key]? ≠ none := fun e =>
    List.ne_nil_of_mem (mem_lineOf.2 hc) ((h.known key).1 e)
  obtain ⟨n, hn⟩ := Option.ne_none_iff_exists'.1 hne
  exact ⟨n, hn, (h.claim call ⟨key, n⟩).2 ⟨hc, hn⟩, h.slot key n hn⟩

theorem line_eq (key : String) : s.line key = lineOf calls key := by
  unfold Serializer.line
  cases ht : s.table[key]? with
  | none => exact ((h.known key).1 ht).symm
  | some n => simp [h.slot key n ht, slotOf]

/-- The call that has the turn of its key is the one that came first. -/
theorem hasTurn_iff : s.hasTurn call = true ↔
    ∃ key, (call, key) ∈ calls ∧ (lineOf calls key).head? = some call := by
  unfold hasTurn
  constructor
  · intro hturn
    cases hc : s.claims[call]? with
    | none => simp [hc] at hturn
    | some c =>
      obtain ⟨hmem, hn⟩ := (h.claim call c).1 hc
      exact ⟨c.key, hmem, by simpa [hc, h.slot _ _ hn, slotOf] using hturn⟩
  · rintro ⟨key, hmem, hhead⟩
    obtain ⟨n, -, hc, hslot⟩ := h.exists_slot hmem
    simp [hc, hslot, slotOf, hhead]

theorem hasTurn_of_mem (hc : (call, key) ∈ calls) :
    s.hasTurn call = true ↔ (lineOf calls key).head? = some call := by
  rw [h.hasTurn_iff]
  constructor
  · rintro ⟨key', hmem, hhead⟩
    rwa [key_unique h.nodup hc hmem]
  · intro hhead
    exact ⟨key, hc, hhead⟩

/-! ## Arrivals -/

/-- A new call joins the line of its key, in the slot `n` that the key has or gets. -/
theorem join {n : Nat} (hc : call ∉ calls.map Prod.fst)
    (hn : s.table[key]? = some n ∨ s.table[key]? = none ∧ s.next ≤ n)
    (htable : ∀ k : String, t.table[k]? = if key = k then some n else s.table[k]?)
    (hclaims : ∀ c : Nat, t.claims[c]? = if call = c then some ⟨key, n⟩ else s.claims[c]?)
    (hslots : ∀ m : Nat, t.slots[m]? =
      if n = m then some (slotOf (calls ++ [(call, key)]) key) else s.slots[m]?)
    (hnext : s.next ≤ t.next) (hlt : n < t.next) : t.Serves (calls ++ [(call, key)]) := by
  have hnew : ∀ k, (call, k) ∉ calls := fun k hm => hc (List.mem_map_of_mem hm)
  have hother : ∀ k m, key ≠ k → s.table[k]? = some m → n ≠ m := by
    rintro k m hk hm rfl
    rcases hn with hn | ⟨-, hle⟩
    · exact hk (h.apart key k n hn hm)
    · exact absurd (h.fresh k n hm) (Nat.not_lt.2 hle)
  constructor
  case nodup =>
    rw [List.map_append, List.nodup_append]
    refine ⟨h.nodup, List.pairwise_singleton _ _, fun a ha b hb e => hc ?_⟩
    obtain rfl : b = call := by simpa using hb
    exact e ▸ ha
  case claim =>
    rintro c ⟨k, m⟩
    rw [hclaims, htable, List.mem_append, List.mem_singleton, Prod.mk.injEq]
    by_cases e : call = c
    · subst e
      simp only [if_true, Option.some.injEq, Claim.mk.injEq, hnew, false_or, true_and]
      constructor
      · rintro ⟨rfl, rfl⟩
        simp
      · rintro ⟨rfl, hm⟩
        exact ⟨rfl, by simpa using hm⟩
    · rw [if_neg e, h.claim]
      simp only [Ne.symm e, false_and, or_false]
      refine and_congr_right fun hm => ?_
      by_cases hk : key = k
      · subst hk
        -- The key has a call already, so it keeps its slot.
        obtain ⟨m', hm', -⟩ := h.exists_slot hm
        rcases hn with hn | ⟨hn, -⟩
        · rw [if_pos rfl, hn]
        · rw [hn] at hm'
          cases hm'
      · rw [if_neg hk]
  case known =>
    intro k
    rw [htable, lineOf_append]
    by_cases e : key = k
    · simp [e]
    · rw [if_neg e, if_neg (Ne.symm e), h.known]
  case slot =>
    intro k m hm
    rw [htable] at hm
    by_cases e : key = k
    · rw [if_pos e] at hm
      rw [hslots, if_pos (Option.some.inj hm), e]
    · rw [if_neg e] at hm
      rw [hslots, if_neg (hother k m e hm), h.slot k m hm, slotOf, slotOf, lineOf_append,
        if_neg (Ne.symm e)]
  case apart =>
    intro k k' m hk hk'
    rw [htable] at hk hk'
    by_cases e : key = k
    · by_cases e' : key = k'
      · exact e.symm.trans e'
      · rw [if_pos e] at hk
        rw [if_neg e'] at hk'
        exact absurd (Option.some.inj hk) (hother k' m e' hk')
    · rw [if_neg e] at hk
      by_cases e' : key = k'
      · rw [if_pos e'] at hk'
        exact absurd (Option.some.inj hk') (hother k m e hk)
      · rw [if_neg e'] at hk'
        exact h.apart k k' m hk hk'
  case fresh =>
    intro k m hm
    rw [htable] at hm
    split at hm
    · exact Option.some.inj hm ▸ hlt
    · exact Nat.lt_of_lt_of_le (h.fresh k m hm) hnext

theorem arrive (hc : call ∉ calls.map Prod.fst) (key : String) :
    (s.arrive call key).Serves (calls ++ [(call, key)]) := by
  have hline : lineOf (calls ++ [(call, key)]) key = lineOf calls key ++ [call] := by
    rw [lineOf_append, if_pos rfl]
  unfold Serializer.arrive
  cases ht : s.table[key]? with
  | some n =>
    have hslot : s.slots.getD n ⟨1, []⟩ = slotOf calls key := by
      rw [Std.TreeMap.getD_eq_getD_getElem?, h.slot key n ht, Option.getD_some]
    refine h.join hc (.inl ht) (fun k => ?_) (fun c => ?_) (fun m => ?_) (Nat.le_refl _)
      (h.fresh key n ht)
    · dsimp only
      split
      · next e => rw [← e, ht]
      · rfl
    · simp [Std.TreeMap.getElem?_insert]
    · simp [Std.TreeMap.getElem?_insert, hslot, slotOf, hline]
  | none =>
    have hnone := (h.known key).1 ht
    refine h.join hc (.inr ⟨ht, Nat.le_refl _⟩) (fun k => ?_) (fun c => ?_) (fun m => ?_)
      (Nat.le_succ _) (Nat.lt_succ_self _)
    · simp [Std.TreeMap.getElem?_insert]
    · simp [Std.TreeMap.getElem?_insert]
    · simp [Std.TreeMap.getElem?_insert, slotOf, hline, hnone]

/-! ## Departures -/

/-- A call that leaves gives its turn, if it has it, to the next one in line. -/
theorem leave_fst (hc : (call, key) ∈ calls) : (s.leave call).1 =
    if (lineOf calls key).head? = some call then
      ((lineOf calls key).filter (· ≠ call)).head? else none := by
  obtain ⟨n, hn, hclaim, hslot⟩ := h.exists_slot hc
  have hget : s.slots.getD n ⟨1, []⟩ = slotOf calls key := by
    rw [Std.TreeMap.getD_eq_getD_getElem?, hslot, Option.getD_some]
  unfold Serializer.leave
  simp only [hclaim, hget]
  rfl

/-- A call leaves the line of its key, which loses its slot `n` when nobody is left in it. -/
theorem depart {n : Nat} (hc : (call, key) ∈ calls) (hn : s.table[key]? = some n)
    (htable : ∀ k : String, t.table[k]? =
      if key = k ∧ lineOf (without calls call) key = [] then none else s.table[k]?)
    (hclaims : ∀ c : Nat, t.claims[c]? = if call = c then none else s.claims[c]?)
    (hslot : lineOf (without calls call) key ≠ [] →
      t.slots[n]? = some (slotOf (without calls call) key))
    (hslots : ∀ m : Nat, n ≠ m → t.slots[m]? = s.slots[m]?) (hnext : t.next = s.next) :
    t.Serves (without calls call) := by
  have hother : ∀ k, key ≠ k → lineOf (without calls call) k = lineOf calls k := by
    intro k hk
    rw [lineOf_without, List.filter_eq_self]
    intro c hm
    have hne : c ≠ call := by
      rintro rfl
      exact hk (key_unique h.nodup hc (mem_lineOf.1 hm))
    simpa using hne
  have hkept : ∀ (k : String) (m : Nat), t.table[k]? = some m → s.table[k]? = some m := by
    intro k m hm
    rw [htable] at hm
    split at hm
    · cases hm
    · exact hm
  constructor
  case nodup => exact ((List.filter_sublist).map Prod.fst).nodup h.nodup
  case claim =>
    rintro c ⟨k, m⟩
    rw [hclaims, htable]
    by_cases e : call = c
    · subst e
      simp [mem_without]
    · have hmem : (c, k) ∈ without calls call ↔ (c, k) ∈ calls := by
        simp [mem_without, Ne.symm e]
      rw [if_neg e, h.claim, hmem]
      refine and_congr_right fun hm => ?_
      have hstays : ¬ (key = k ∧ lineOf (without calls call) key = []) := by
        rintro ⟨rfl, hnil⟩
        exact List.ne_nil_of_mem (mem_lineOf.2 (hmem.2 hm)) hnil
      rw [if_neg hstays]
  case known =>
    intro k
    rw [htable]
    by_cases e : key = k
    · subst e
      by_cases hnil : lineOf (without calls call) key = []
      · rw [if_pos ⟨rfl, hnil⟩]
        simp [hnil]
      · rw [if_neg fun hand => hnil hand.2, hn]
        simp [hnil]
    · rw [if_neg fun hand => e hand.1, hother k e, h.known]
  case slot =>
    intro k m hm
    have hm' := hkept k m hm
    by_cases e : key = k
    · subst e
      obtain rfl : n = m := Option.some.inj (hn.symm.trans hm')
      refine hslot fun hnil => ?_
      rw [htable, if_pos ⟨rfl, hnil⟩] at hm
      cases hm
    · have hne : n ≠ m := by
        rintro rfl
        exact e (h.apart key k n hn hm')
      rw [hslots m hne, h.slot k m hm', slotOf, slotOf, hother k e]
  case apart => exact fun k k' m hk hk' => h.apart k k' m (hkept k m hk) (hkept k' m hk')
  case fresh => exact fun k m hm => hnext ▸ h.fresh k m (hkept k m hm)

/-- A call that leaves gives its claim back; the key and its slot go with the last call. -/
theorem leave_snd {n : Nat} (hc : (call, key) ∈ calls) (hn : s.table[key]? = some n) :
    (s.leave call).2 = { s with
      table := if lineOf (without calls call) key = [] then s.table.erase key else s.table
      slots := if lineOf (without calls call) key = [] then s.slots.erase n
        else s.slots.insert n (slotOf (without calls call) key)
      claims := s.claims.erase call } := by
  have hclaim := (h.claim call ⟨key, n⟩).2 ⟨hc, hn⟩
  have hget : s.slots.getD n ⟨1, []⟩ = slotOf calls key := by
    rw [Std.TreeMap.getD_eq_getD_getElem?, h.slot key n hn, Option.getD_some]
  have hline : lineOf (without calls call) key = (lineOf calls key).filter (· ≠ call) :=
    lineOf_without call key
  have hlength := length_filter_ne (nodup_lineOf h.nodup key) (mem_lineOf.2 hc)
  rw [← hline] at hlength
  -- The count says whether somebody is left in the line.
  have hlast : (slotOf calls key).count = 2 ↔ lineOf (without calls call) key = [] := by
    rw [← List.length_eq_zero_iff]
    show (lineOf calls key).length + 1 = 2 ↔ _
    omega
  have hfst : (slotOf calls key).count - 1 =
      (lineOf (without calls call) key).length + 1 := by
    show (lineOf calls key).length + 1 - 1 = _
    omega
  have hsnd : (slotOf calls key).line.filter (· ≠ call) = lineOf (without calls call) key :=
    hline.symm
  unfold Serializer.leave
  simp only [hclaim, hget, hn, and_true, hlast, hfst, hsnd]
  rfl

theorem table_leave (hc : (call, key) ∈ calls) (k : String) : (s.leave call).2.table[k]? =
    if key = k ∧ lineOf (without calls call) key = [] then none else s.table[k]? := by
  obtain ⟨n, hn, -⟩ := h.exists_slot hc
  rw [h.leave_snd hc hn]
  by_cases hnil : lineOf (without calls call) key = []
  · simp [hnil, Std.TreeMap.getElem?_erase]
  · simp [hnil]

theorem leave (hc : (call, key) ∈ calls) :
    (s.leave call).2.Serves (without calls call) := by
  obtain ⟨n, hn, -⟩ := h.exists_slot hc
  refine h.depart hc hn (h.table_leave hc) ?_ ?_ ?_ ?_ <;> rw [h.leave_snd hc hn]
  · intro c
    simp [Std.TreeMap.getElem?_erase]
  · intro hne
    dsimp only
    rw [if_neg hne, Std.TreeMap.getElem?_insert_self]
  · intro m hm
    dsimp only
    split
    · simp [Std.TreeMap.getElem?_erase, hm]
    · simp [Std.TreeMap.getElem?_insert, hm]

end Serves

end BuildQueue.Serializer
