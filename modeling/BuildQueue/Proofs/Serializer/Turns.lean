import BuildQueue.Proofs.Serializer.Slots
import Mathlib.Data.List.Induction

/-!
# Turns

Whatever calls arrive at a serializer, finish and are given up, and in whatever order they do so, at
each moment one live call of each key that has any has the turn, and it is the one that arrived
first (`run_inTurn`). A call keeps its turn until it leaves; then the next one in line gets it at
once and is told so, and a call that is given up while it waits is only missing from the line.
-/

namespace BuildQueue.Serializer

/-- The calls that have arrived. -/
def arrivals (events : List Event) : List Nat :=
  events.filterMap fun
    | .arrive call _ => some call
    | _ => none

/-- What can happen after the given events: each call arrives once, only a call that has the turn
finishes, and only a live call is given up. -/
def Possible (before : List Event) : Event → Prop
  | .arrive call _ => call ∉ arrivals before
  | .finish call => (run before).hasTurn call = true
  | .cancel call => call ∈ (live before).map Prod.fst

instance (before : List Event) : DecidablePred (Possible before)
  | .arrive call _ => inferInstanceAs (Decidable (call ∉ arrivals before))
  | .finish call => inferInstanceAs (Decidable ((run before).hasTurn call = true))
  | .cancel call => inferInstanceAs (Decidable (call ∈ (live before).map Prod.fst))

/-- Each element of a list goes with those in front of it. -/
def Everywhere {α : Type} (P : List α → α → Prop) (l : List α) : Prop :=
  ∀ n (h : n < l.length), P (l.take n) (l.get ⟨n, h⟩)

instance {α : Type} (P : List α → α → Prop) [∀ before, DecidablePred (P before)] (l : List α) :
    Decidable (Everywhere P l) :=
  inferInstanceAs (Decidable (∀ n (_ : n < l.length), _))

/-- Each event is possible where it happens. -/
def Orderly (events : List Event) : Prop := Everywhere Possible events

instance (events : List Event) : Decidable (Orderly events) :=
  inferInstanceAs (Decidable (Everywhere Possible events))

theorem everywhere_concat {α : Type} {P : List α → α → Prop} {l : List α} {a : α} :
    Everywhere P (l ++ [a]) ↔ Everywhere P l ∧ P l a := by
  constructor
  · intro h
    constructor
    · intro n hn
      have ha := h n (by simp; omega)
      simpa [List.take_append_of_le_length (Nat.le_of_lt hn), List.getElem_append_left hn]
        using ha
    · simpa using h l.length (by simp)
  · rintro ⟨h, ha⟩ n hn
    rcases Nat.lt_or_ge n l.length with hlt | hge
    · have ha := h n hlt
      simpa [List.take_append_of_le_length (Nat.le_of_lt hlt), List.getElem_append_left hlt]
        using ha
    · obtain rfl : n = l.length := by simp at hn; omega
      simpa using ha

theorem orderly_concat {events : List Event} {e : Event} :
    Orderly (events ++ [e]) ↔ Orderly events ∧ Possible events e :=
  everywhere_concat

theorem arrivals_concat (events : List Event) (e : Event) :
    arrivals (events ++ [e]) = arrivals events ++ arrivals [e] :=
  List.filterMap_append

/-- The live calls have arrived, in this order. -/
theorem live_sublist_arrivals (events : List Event) :
    ((live events).map Prod.fst).Sublist (arrivals events) := by
  induction events using List.reverseRecOn with
  | nil => exact List.Sublist.refl _
  | append_singleton events e ih =>
    have hgone : ∀ call, ((without (live events) call).map Prod.fst).Sublist (arrivals events) :=
      fun call => (List.filter_sublist.map Prod.fst).trans ih
    rw [live_concat, arrivals_concat]
    cases e with
    | arrive call key =>
      rw [Event.update, List.map_append]
      exact ih.append (List.Sublist.refl [call])
    | finish call => exact (hgone call).trans (List.sublist_append_left _ _)
    | cancel call => exact (hgone call).trans (List.sublist_append_left _ _)

theorem line_sublist_arrivals (events : List Event) (key : String) :
    (lineOf (live events) key).Sublist (arrivals events) :=
  (List.filter_sublist.map Prod.fst).trans (live_sublist_arrivals events)

/-- A call that can leave is live. -/
theorem Serves.exists_live {s : Serializer} {calls : List (Nat × String)} (h : s.Serves calls)
    {call : Nat} (hturn : s.hasTurn call = true) : ∃ key, (call, key) ∈ calls := by
  obtain ⟨key, hc, -⟩ := h.hasTurn_iff.1 hturn
  exact ⟨key, hc⟩

/-- The slots and claims are those of the live calls at every moment. -/
theorem serves_run {events : List Event} (h : Orderly events) :
    (run events).Serves (live events) := by
  induction events using List.reverseRecOn with
  | nil => exact .empty
  | append_singleton events e ih =>
    obtain ⟨h, he⟩ := orderly_concat.1 h
    have hs := ih h
    rw [run_concat, live_concat]
    cases e with
    | arrive call key =>
      exact hs.arrive (fun hm => he ((live_sublist_arrivals events).mem hm)) key
    | finish call =>
      obtain ⟨key, hc⟩ := hs.exists_live he
      exact hs.leave hc
    | cancel call =>
      obtain ⟨⟨c, key⟩, hc, rfl⟩ := List.mem_map.1 he
      exact hs.leave hc

/-- Who has the turn of a key, and who waits for it. -/
structure InTurn (events : List Event) : Prop where
  /-- The serializer has the live calls of a key in its line, in the order of their arrival. -/
  line : ∀ key, (run events).line key = lineOf (live events) key ∧
    (lineOf (live events) key).Sublist (arrivals events)
  /-- Of the live calls of a key one has the turn, and it arrived before all others. -/
  holder : ∀ key, lineOf (live events) key ≠ [] → ∃ call, (call, key) ∈ live events ∧
    (run events).hasTurn call = true ∧
    ∀ other, (other, key) ∈ live events → other ≠ call →
      (run events).hasTurn other = false ∧ [call, other].Sublist (arrivals events)
  /-- Only live calls have a turn. -/
  only : ∀ call, (run events).hasTurn call = true → ∃ key, (call, key) ∈ live events
  /-- A call keeps its turn until it leaves. -/
  keeps : ∀ e call, Possible events e → (run events).hasTurn call = true → e ≠ .finish call →
    e ≠ .cancel call → (run (events ++ [e])).hasTurn call = true
  /-- A call that leaves is only missing from the line, and a call that gets the turn by that is
  told so. -/
  passes : ∀ e call, Possible events e → e = .finish call ∨ e = .cancel call →
    (∀ key, (run (events ++ [e])).line key = ((run events).line key).filter (· ≠ call)) ∧
    ∀ other, ((run events).leave call).1 = some other ↔
      (run events).hasTurn other = false ∧ (run (events ++ [e])).hasTurn other = true

section Turns

variable {events : List Event} {s t : Serializer} {calls : List (Nat × String)} {call : Nat}
  {key : String}

/-- The first call of a line has the turn, and no other one. -/
theorem Serves.exists_holder (h : s.Serves calls) (hne : lineOf calls key ≠ []) :
    ∃ call rest, lineOf calls key = call :: rest ∧ s.hasTurn call = true ∧
      ∀ other ∈ rest, s.hasTurn other = false := by
  obtain ⟨call, rest, hline⟩ := List.exists_cons_of_ne_nil hne
  have hmem : ∀ c ∈ call :: rest, (c, key) ∈ calls := fun c hc => mem_lineOf.1 (hline ▸ hc)
  have hnodup : (call :: rest).Nodup := hline ▸ nodup_lineOf h.nodup key
  refine ⟨call, rest, hline, ?_, fun other ho => ?_⟩
  · rw [h.hasTurn_of_mem (hmem call List.mem_cons_self), hline]
    rfl
  · rw [Bool.eq_false_iff, ne_eq, h.hasTurn_of_mem (hmem other (List.mem_cons_of_mem _ ho)), hline]
    rintro ⟨⟩
    exact (List.nodup_cons.1 hnodup).1 ho

/-- A call has its turn in the calls after an event if it had it before and is still there. -/
theorem Serves.keeps_turn (h : s.Serves calls) (e : Event) (h' : t.Serves (e.update calls))
    (hturn : s.hasTurn call = true) (hf : e ≠ .finish call) (hc : e ≠ .cancel call) :
    t.hasTurn call = true := by
  obtain ⟨key, hmem, hhead⟩ := h.hasTurn_iff.1 hturn
  have hleave : ∀ gone, call ≠ gone → (call, key) ∈ without calls gone ∧
      (lineOf (without calls gone) key).head? = some call := by
    intro gone hne
    obtain ⟨rest, hline⟩ := List.head?_eq_some_iff.1 hhead
    refine ⟨mem_without.2 ⟨hmem, hne⟩, ?_⟩
    rw [lineOf_without, hline, List.filter_cons_of_pos (by simpa using hne)]
    rfl
  refine h'.hasTurn_iff.2 ⟨key, ?_⟩
  cases e with
  | arrive new k =>
    refine ⟨List.mem_append_left _ hmem, ?_⟩
    rw [Event.update, lineOf_append]
    split
    · rw [List.head?_append, hhead]
      rfl
    · exact hhead
  | finish gone => exact hleave gone fun e => hf (e ▸ rfl)
  | cancel gone => exact hleave gone fun e => hc (e ▸ rfl)

/-- The call that is told gets the turn, and nobody else does. -/
theorem Serves.leave_fst_eq_some (h : s.Serves calls) (hc : (call, key) ∈ calls) (other : Nat) :
    (s.leave call).1 = some other ↔
      s.hasTurn other = false ∧ (s.leave call).2.hasTurn other = true := by
  rw [h.leave_fst hc, Bool.eq_false_iff, ne_eq, h.hasTurn_iff, (h.leave hc).hasTurn_iff]
  constructor
  · intro htold
    split at htold
    · next hhead =>
      have hmem := List.mem_of_head? htold
      obtain ⟨hline, hne⟩ : other ∈ lineOf calls key ∧ other ≠ call := by simpa using hmem
      have ho := mem_lineOf.1 hline
      refine ⟨?_, key, mem_without.2 ⟨ho, hne⟩, by rwa [lineOf_without]⟩
      rintro ⟨k, hk, hother⟩
      rw [key_unique h.nodup hk ho, hhead] at hother
      exact hne (Option.some.inj hother).symm
    · cases htold
  · rintro ⟨hnot, k, hk, hfirst⟩
    obtain ⟨ho, hne⟩ := mem_without.1 hk
    obtain ⟨first, rest, hline⟩ := List.exists_cons_of_ne_nil (List.ne_nil_of_mem (mem_lineOf.2 ho))
    rw [lineOf_without, hline] at hfirst
    by_cases e : first = call
    · -- Only a call in front of `other` can have been in its way.
      subst e
      obtain rfl := key_unique h.nodup hc (mem_lineOf.1 (hline ▸ List.mem_cons_self))
      rw [hline, if_pos (List.head?_cons ..), hfirst]
    · rw [List.filter_cons_of_pos (by simpa using e)] at hfirst
      exact absurd ⟨k, ho, by rw [hline]; exact hfirst⟩ hnot

/-- At each moment one call of each key that has any has the turn, and it is the one that arrived
first. -/
theorem run_inTurn (h : Orderly events) : InTurn events := by
  have hs := serves_run h
  constructor
  case line => exact fun key => ⟨hs.line_eq key, line_sublist_arrivals events key⟩
  case holder =>
    intro key hne
    obtain ⟨call, rest, hline, hturn, hothers⟩ := hs.exists_holder hne
    refine ⟨call, mem_lineOf.1 (hline ▸ List.mem_cons_self), hturn, fun other ho hne => ?_⟩
    have hrest : other ∈ rest :=
      (List.mem_cons.1 (hline ▸ mem_lineOf.2 ho)).resolve_left hne
    refine ⟨hothers other hrest, List.Sublist.trans ?_ (line_sublist_arrivals events key)⟩
    rw [hline]
    exact (List.singleton_sublist.2 hrest).cons_cons call
  case only => exact fun call hturn => hs.exists_live hturn
  case keeps =>
    intro e call he hturn hf hc
    refine hs.keeps_turn e ?_ hturn hf hc
    rw [← live_concat]
    exact serves_run (orderly_concat.2 ⟨h, he⟩)
  case passes =>
    intro e call he hleave
    have hlive : ∃ key, (call, key) ∈ live events := by
      rcases hleave with rfl | rfl
      · exact hs.exists_live he
      · obtain ⟨⟨c, key⟩, hc, rfl⟩ := List.mem_map.1 he
        exact ⟨key, hc⟩
    obtain ⟨key, hc⟩ := hlive
    have hrun : run (events ++ [e]) = ((run events).leave call).2 := by
      rw [run_concat]
      rcases hleave with rfl | rfl <;> rfl
    rw [hrun]
    refine ⟨fun k => ?_, hs.leave_fst_eq_some hc⟩
    rw [(hs.leave hc).line_eq, hs.line_eq, lineOf_without]

end Turns

/-- Four calls of one key come; the second is given up while it waits, then the first while it
works. The third finishes when the fourth is there, and when that one is done too, the key is
forgotten and comes back for a fifth call. -/
def relay : List Event :=
  [.arrive 0 "repo", .arrive 1 "repo", .arrive 2 "repo", .arrive 9 "docs", .cancel 1, .cancel 0,
    .arrive 3 "repo", .finish 2, .finish 3, .arrive 4 "repo"]

theorem run_inTurn_relay : Orderly relay ∧ InTurn relay ∧
    (run (relay.take 6)).line "repo" = [2] ∧ (run relay).hasTurn 4 = true :=
  have h : Orderly relay := by decide +kernel
  ⟨h, run_inTurn h, by decide +kernel, by decide +kernel⟩

end BuildQueue.Serializer
