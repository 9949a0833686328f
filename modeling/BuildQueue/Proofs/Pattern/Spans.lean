import BuildQueue.Pattern.Branch

/-!
# What an expression spans

`ends` follows sets of positions, and a repetition without bound only as often as there are
positions. `Spans` says of two positions that the text between them is matched, without lists and
without a bound; the two are the same (`mem_ends`). An expression between anchors matches within a
text just when it spans the whole of it (`matchesWithin_anchored`).
-/

namespace BuildQueue.Pattern

/-! ## Repeated steps -/

/-- A step taken `n` times. -/
def Times (R : Nat → Nat → Prop) : Nat → Nat → Nat → Prop
  | 0, i, j => i = j
  | n + 1, i, j => ∃ k, R i k ∧ Times R n k j

variable {R : Nat → Nat → Prop}

theorem Times.comp {m n i j k : Nat} (hm : Times R m i j) (hn : Times R n j k) :
    Times R (m + n) i k := by
  induction m generalizing i with
  | zero =>
    obtain rfl : i = j := hm
    simpa using hn
  | succ m ih =>
    obtain ⟨l, hl, hm⟩ := hm
    rw [Nat.succ_add]
    exact ⟨l, hl, ih hm⟩

theorem Times.split {m n i k : Nat} (h : Times R (m + n) i k) :
    ∃ j, Times R m i j ∧ Times R n j k := by
  induction m generalizing i with
  | zero => exact ⟨i, rfl, by simpa using h⟩
  | succ m ih =>
    rw [Nat.succ_add] at h
    obtain ⟨l, hl, h⟩ := h
    obtain ⟨j, hm, hn⟩ := ih h
    exact ⟨j, ⟨l, hl, hm⟩, hn⟩

/-- Steps never lead back, and those that lead on stay within a text of `size` characters. -/
def Forward (size : Nat) (R : Nat → Nat → Prop) : Prop :=
  ∀ i j, R i j → i = j ∨ i < j ∧ j ≤ size

theorem Times.forward {size n i j : Nat} (hR : Forward size R) (h : Times R n i j) :
    i = j ∨ i < j ∧ j ≤ size := by
  induction n generalizing i with
  | zero => exact .inl h
  | succ n ih =>
    obtain ⟨k, hk, h⟩ := h
    have := hR i k hk
    have := ih h
    omega

/-- Steps that lead nowhere can be left out; of the others there are no more than positions. -/
theorem Times.shorten {size n i j : Nat} (hR : Forward size R) (h : Times R n i j) :
    ∃ m ≤ n, m ≤ size - i ∧ Times R m i j := by
  induction n generalizing i with
  | zero => exact ⟨0, Nat.le_refl 0, Nat.zero_le _, h⟩
  | succ n ih =>
    obtain ⟨k, hk, h⟩ := h
    obtain ⟨m, hmn, hm, h⟩ := ih h
    rcases hR i k hk with rfl | hlt
    · exact ⟨m, by omega, hm, h⟩
    · exact ⟨m + 1, by omega, by omega, k, hk, h⟩

namespace Regex

/-! ## Sets of positions -/

section

variable {step : List Nat → List Nat} (hstep : ∀ ps j, j ∈ step ps ↔ ∃ i ∈ ps, R i j)

theorem mem_merge {p q : List Nat} {i : Nat} : i ∈ merge p q ↔ i ∈ p ∨ i ∈ q := by
  by_cases h : i ∈ p <;> simp [merge, h]

include hstep

theorem mem_iterate {n : Nat} {ps : List Nat} {j : Nat} :
    j ∈ iterate step n ps ↔ ∃ i ∈ ps, Times R n i j := by
  induction n generalizing ps with
  | zero => simp [iterate, Times]
  | succ n ih =>
    rw [iterate, ih]
    constructor
    · rintro ⟨k, hk, ht⟩
      obtain ⟨i, hi, hR⟩ := (hstep ps k).mp hk
      exact ⟨i, hi, k, hR, ht⟩
    · rintro ⟨i, hi, k, hR, ht⟩
      exact ⟨k, (hstep ps k).mpr ⟨i, hi, hR⟩, ht⟩

theorem mem_iterate_merge {n : Nat} {ps : List Nat} {j : Nat} :
    j ∈ iterate (fun qs => merge qs (step qs)) n ps ↔ ∃ i ∈ ps, ∃ m ≤ n, Times R m i j := by
  induction n generalizing ps with
  | zero => simp [iterate, Times]
  | succ n ih =>
    rw [iterate, ih]
    constructor
    · rintro ⟨k, hk, m, hm, ht⟩
      rcases mem_merge.mp hk with hk | hk
      · exact ⟨k, hk, m, by omega, ht⟩
      · obtain ⟨i, hi, hR⟩ := (hstep ps k).mp hk
        exact ⟨i, hi, m + 1, by omega, k, hR, ht⟩
    · rintro ⟨i, hi, m, hm, ht⟩
      cases m with
      | zero => exact ⟨i, mem_merge.mpr (.inl hi), 0, Nat.zero_le n, ht⟩
      | succ m =>
        obtain ⟨k, hR, ht⟩ := ht
        exact ⟨k, mem_merge.mpr (.inr ((hstep ps k).mpr ⟨i, hi, hR⟩)), m, by omega, ht⟩

end

/-! ## Spans -/

variable (words : WordChars) (text : Array Char)

/-- The text from `i` to `j` is matched. After `min` rounds a repetition may go on for as many more
as its bound leaves. -/
def Spans : Regex → Nat → Nat → Prop
  | empty, i, j => i = j
  | chars set, i, j => j = i + 1 ∧ ∃ c, text[i]? = some c ∧ set.contains c.toNat = true
  | look condition, i, j =>
    i = j ∧ condition.holds words (if i = 0 then none else text[i - 1]?) text[i]? = true
  | seq a b, i, j => ∃ k, Spans a i k ∧ Spans b k j
  | alt a b, i, j => Spans a i j ∨ Spans b i j
  | repeated a min max, i, j =>
    ∃ more, (∀ m ∈ max, more ≤ m - min) ∧ Times (fun i j => Spans a i j) (min + more) i j

theorem spans_forward (r : Regex) : Forward text.size (r.Spans words text) := by
  induction r with
  | empty => exact fun i j h => .inl h
  | chars set =>
    rintro i j ⟨rfl, c, hc, -⟩
    have := (Array.getElem?_eq_some_iff.mp hc).1
    omega
  | look condition => exact fun i j h => .inl h.1
  | seq a b iha ihb =>
    rintro i j ⟨k, ha, hb⟩
    have := iha i k ha
    have := ihb k j hb
    omega
  | alt a b iha ihb => exact fun i j h => h.elim (iha i j) (ihb i j)
  | repeated a min max ih =>
    rintro i j ⟨more, -, ht⟩
    exact ht.forward ih

/-- What is found from a set of positions is what is spanned from one of them. -/
theorem mem_ends (r : Regex) (ps : List Nat) (j : Nat) :
    j ∈ r.ends words text ps ↔ ∃ i ∈ ps, r.Spans words text i j := by
  induction r generalizing ps j with
  | empty => simp [ends, Spans]
  | chars set =>
    simp only [ends, Spans, List.mem_filterMap, Option.ite_none_right_eq_some, Option.some.injEq,
      Option.any_eq_true]
    exact ⟨fun ⟨i, hi, h, e⟩ => ⟨i, hi, e.symm, h⟩, fun ⟨i, hi, e, h⟩ => ⟨i, hi, h, e.symm⟩⟩
  | look condition =>
    simp only [ends, Spans, List.mem_filter]
    exact ⟨fun ⟨hj, h⟩ => ⟨j, hj, rfl, h⟩, fun ⟨i, hi, e, h⟩ => e ▸ ⟨hi, h⟩⟩
  | seq a b iha ihb =>
    simp only [ends, Spans, ihb, iha]
    constructor
    · rintro ⟨k, ⟨i, hi, ha⟩, hb⟩
      exact ⟨i, hi, k, ha, hb⟩
    · rintro ⟨i, hi, k, ha, hb⟩
      exact ⟨k, ⟨i, hi, ha⟩, hb⟩
  | alt a b iha ihb =>
    simp only [ends, Spans, mem_merge, iha, ihb, and_or_left, exists_or]
  | repeated a min max ih =>
    have hF := spans_forward words text a
    simp only [ends, Spans, mem_iterate_merge ih, mem_iterate ih]
    constructor
    · rintro ⟨k, ⟨i, hi, hmin⟩, m, hm, ht⟩
      refine ⟨i, hi, m, fun bound hb => ?_, hmin.comp ht⟩
      obtain rfl : max = some bound := hb
      exact Nat.le_trans hm (Nat.min_le_left _ _)
    · rintro ⟨i, hi, more, hmore, ht⟩
      obtain ⟨k, hmin, ht⟩ := ht.split
      -- What lies beyond the bound of `ends` only repeats positions.
      obtain ⟨m, hm, hsize, ht⟩ := ht.shorten hF
      refine ⟨k, ⟨i, hi, hmin⟩, m, ?_, ht⟩
      cases max with
      | none => exact Nat.le_trans hsize (Nat.le_trans (Nat.sub_le _ _) (Nat.le_succ _))
      | some bound =>
        exact Nat.le_min.mpr ⟨Nat.le_trans hm (hmore bound rfl), Nat.le_trans hsize (by omega)⟩

/-- An expression with an anchor in front of it and one behind it. -/
def anchored (r : Regex) : Regex := seq (look .textStart) (seq r (seq (look .textEnd) empty))

theorem weight_anchored (r : Regex) : r.anchored.weight = r.weight + 96 := by
  simp only [anchored, weight]
  omega

/-- Between anchors an expression matches just the texts that it spans from end to end. -/
theorem matchesWithin_anchored (r : Regex) :
    r.anchored.matchesWithin words text = true ↔ r.Spans words text 0 text.size := by
  have hend : ∀ j, text[j]? = none ↔ text.size ≤ j := fun j => Array.getElem?_eq_none_iff
  have hmatch : r.anchored.matchesWithin words text = true ↔
      ∃ j, j ∈ r.anchored.ends words text (List.range (text.size + 1)) := by
    rw [matchesWithin, Bool.not_eq_true', List.isEmpty_eq_false_iff_exists_mem]
  rw [hmatch]
  simp only [mem_ends, anchored, Spans, List.mem_range, Look.holds, Option.isNone_iff_eq_none, hend]
  constructor
  · rintro ⟨j, i, hi, _, ⟨rfl, hstart⟩, k, hr, _, ⟨rfl, hk⟩, rfl⟩
    obtain rfl : i = 0 := by
      rcases Nat.eq_zero_or_pos i with h | h
      · exact h
      · rw [if_neg (by omega), hend] at hstart
        omega
    rcases spans_forward words text r 0 k hr with rfl | hlt
    · rwa [show text.size = 0 by omega]
    · rwa [show text.size = k by omega]
  · intro hr
    exact ⟨text.size, 0, by omega, 0, ⟨rfl, by simp⟩, text.size, hr, text.size,
      ⟨rfl, Nat.le_refl _⟩, rfl⟩

end Regex

end BuildQueue.Pattern
