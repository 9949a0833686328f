import BuildQueue.Text.Score
import Mathlib.Data.List.Induction

/-!
# Numbers as text

A number is read back from its digits, which are the one run of digits without leading zeros that
stands for it (`Decimal.denotes_and_unpadded_iff`), and a score that is whole and small enough stands
for itself.
-/

namespace BuildQueue

/-- Up to 53 bits, every whole number stands for itself as a score. -/
def wholeBound : Nat := Nat.pow 2 53

namespace Text

/-- A non-empty run of characters of a kind. -/
def IsRun (kind : Char → Bool) (s : List Char) : Prop := s ≠ [] ∧ ∀ c ∈ s, kind c = true

namespace Decimal

/-- The digits `s` stand for the number `n` of 64 bits; zeros may lead them. -/
def Denotes (s : List Char) (n : UInt64) : Prop :=
  IsRun Char.isDigit s ∧ Nat.ofDigitChars 10 s 0 = n.toNat

/-- No zero stands in front of other digits. -/
def Unpadded (s : List Char) : Prop := s.head? = some '0' → s = ['0']

theorem valueOf_eq_ofDigitChars (digits : List Char) :
    valueOf digits = Nat.ofDigitChars 10 digits 0 := by
  rw [valueOf, Nat.ofDigitChars]
  congr 1
  funext n c
  omega

theorem isDigit_of_mem_digits {n : Nat} {c : Char} (hc : c ∈ digits n) : c.isDigit = true :=
  Nat.isDigit_of_mem_toDigits (by decide) (by decide) hc

theorem isRun_digits (n : Nat) : IsRun Char.isDigit (digits n) :=
  ⟨Nat.toDigits_ne_nil, fun _ => isDigit_of_mem_digits⟩

theorem valueOf_digits (n : Nat) : valueOf (digits n) = n := by
  rw [valueOf_eq_ofDigitChars, digits, Nat.ofDigitChars_ten_toDigits]

theorem digits_of_lt {n : Nat} (h : n < 10) : digits n = [n.digitChar] :=
  Nat.toDigits_of_lt_base h

theorem digits_of_le {n : Nat} (h : 10 ≤ n) : digits n = digits (n / 10) ++ [(n % 10).digitChar] :=
  Nat.toDigits_of_base_le (by decide) h

/-- A number other than zero does not start with zero. -/
theorem head?_digits {n : Nat} (hn : 0 < n) : (digits n).head? ≠ some '0' := by
  induction n using Nat.strongRecOn with
  | _ n ih =>
    by_cases h : n < 10
    · rw [digits_of_lt h]
      have hsmall : ∀ m < 10, 0 < m → [m.digitChar].head? ≠ some '0' := by decide
      exact hsmall n h hn
    · have hle : 10 ≤ n := Nat.le_of_not_lt h
      have hrest := ih (n / 10) (by omega) (by omega)
      rw [digits_of_le hle, List.head?_append]
      cases hhead : (digits (n / 10)).head? with
      | none => exact absurd (List.head?_eq_none_iff.1 hhead) (isRun_digits _).1
      | some c => rwa [hhead] at hrest

theorem unpadded_digits (n : Nat) : Unpadded (digits n) := by
  intro hhead
  rcases Nat.eq_zero_or_pos n with rfl | hpos
  · rfl
  · exact absurd hhead (head?_digits hpos)

theorem parse?_eq_some {s : List Char} {n : Nat} :
    parse? s = some n ↔ IsRun Char.isDigit s ∧ Nat.ofDigitChars 10 s 0 = n := by
  rw [parse?, Option.ite_none_right_eq_some, Option.some.injEq, valueOf_eq_ofDigitChars, IsRun,
    List.all_eq_true]

/-- A number is read back from its digits. -/
theorem parse?_digits (n : Nat) : parse? (digits n) = some n :=
  parse?_eq_some.2 ⟨isRun_digits n, by rw [← valueOf_eq_ofDigitChars, valueOf_digits]⟩

/-- A numeral is read if its digits stand for a number of 64 bits, which is then that number. -/
theorem parseWord?_eq_some {s : List Char} {n : UInt64} :
    parseWord? s = some n ↔ Denotes s n := by
  have hword : ∀ m : Nat, m = n.toNat ↔ m < UInt64.size ∧ UInt64.ofNat m = n := by
    intro m
    constructor
    · rintro rfl
      exact ⟨n.toNat_lt, UInt64.ofNat_toNat⟩
    · rintro ⟨hlt, rfl⟩
      exact (UInt64.toNat_ofNat_of_lt' hlt).symm
  rw [Denotes, hword, ← and_assoc]
  unfold parseWord?
  cases h : parse? s with
  | none =>
    have hno : ¬ IsRun Char.isDigit s := fun hrun => by
      rw [parse?_eq_some.2 ⟨hrun, rfl⟩] at h
      cases h
    simp [hno]
  | some m =>
    obtain ⟨hrun, hvalue⟩ := parse?_eq_some.1 h
    simp [hrun, hvalue]

/-- A text stands for no number of 64 bits if it is no run of digits or one for a greater number. -/
theorem parseWord?_eq_none {s : List Char} : parseWord? s = none ↔
    ¬ IsRun Char.isDigit s ∨ UInt64.size ≤ Nat.ofDigitChars 10 s 0 := by
  rw [Option.eq_none_iff_forall_ne_some]
  simp only [ne_eq, parseWord?_eq_some, Denotes]
  constructor
  · intro h
    by_contra hno
    obtain ⟨hrun, hlt⟩ : IsRun Char.isDigit s ∧ Nat.ofDigitChars 10 s 0 < UInt64.size := by
      simpa using hno
    exact h (UInt64.ofNat (Nat.ofDigitChars 10 s 0)) ⟨hrun, (UInt64.toNat_ofNat_of_lt' hlt).symm⟩
  · rintro (hno | hle) n ⟨hrun, hvalue⟩
    · exact hno hrun
    · exact absurd n.toNat_lt (by rw [← hvalue]; exact Nat.not_lt.2 hle)

/-! ### Digits without leading zeros -/

theorem digitChar_sub {c : Char} (h : c.isDigit = true) :
    c.toNat - '0'.toNat < 10 ∧ (c.toNat - '0'.toNat).digitChar = c := by
  have hsmall : ∀ m < 10, m.digitChar.toNat = 48 + m := by decide
  have hzero : '0'.toNat = 48 := rfl
  simp only [Char.isDigit, Bool.and_eq_true, decide_eq_true_eq] at h
  have hle : 48 ≤ c.toNat := h.1
  have hge : c.toNat ≤ 57 := h.2
  have hlt : c.toNat - '0'.toNat < 10 := by omega
  refine ⟨hlt, Char.toNat_inj.1 ?_⟩
  rw [hsmall _ hlt, hzero, Nat.add_sub_cancel' hle]

theorem valueOf_concat (s : List Char) (c : Char) :
    valueOf (s ++ [c]) = valueOf s * 10 + (c.toNat - '0'.toNat) := by
  simp [valueOf, List.foldl_append]

/-- A run of digits without leading zeros is what is written for the number that it stands for. -/
theorem digits_valueOf {s : List Char} (hs : IsRun Char.isDigit s) (hu : Unpadded s) :
    digits (valueOf s) = s := by
  induction s using List.reverseRecOn with
  | nil => exact absurd rfl hs.1
  | append_singleton s c ih =>
    obtain ⟨hlt, hchar⟩ := digitChar_sub (hs.2 c (by simp))
    rw [valueOf_concat]
    by_cases hnil : s = []
    · subst hnil
      have hzero : valueOf [] = 0 := rfl
      rw [hzero, Nat.zero_mul, Nat.zero_add, digits_of_lt hlt, hchar, List.nil_append]
    · -- What stands in front of the last digit does not start with zero, so it counts.
      have hhead : s.head? ≠ some '0' := by
        intro h0
        have hone := hu (by rw [List.head?_append, h0]; rfl)
        have hlen := congrArg List.length hone
        rw [List.length_append] at hlen
        exact hnil (List.length_eq_zero_iff.1 (by simpa using hlen))
      have hrest := ih ⟨hnil, fun d hd => hs.2 d (List.mem_append_left _ hd)⟩
        fun h0 => absurd h0 hhead
      have hpos : 0 < valueOf s := by
        rcases Nat.eq_zero_or_pos (valueOf s) with h0 | hpos
        · rw [h0] at hrest
          exact absurd (hrest ▸ rfl) hhead
        · exact hpos
      rw [digits_of_le (by omega), show (valueOf s * 10 + (c.toNat - '0'.toNat)) / 10 = valueOf s by
        omega, hrest, show (valueOf s * 10 + (c.toNat - '0'.toNat)) % 10 = c.toNat - '0'.toNat by
        omega, hchar]

theorem denotes_digits (n : UInt64) : Denotes (digits n.toNat) n :=
  ⟨isRun_digits _, by rw [← valueOf_eq_ofDigitChars, valueOf_digits]⟩

/-- Without leading zeros there is one way to write a number. -/
theorem denotes_and_unpadded_iff {s : List Char} {n : UInt64} :
    Denotes s n ∧ Unpadded s ↔ s = digits n.toNat := by
  constructor
  · rintro ⟨⟨hrun, hvalue⟩, hu⟩
    rw [← hvalue, ← valueOf_eq_ofDigitChars, digits_valueOf hrun hu]
  · rintro rfl
    exact ⟨denotes_digits n, unpadded_digits _⟩

theorem toList_toString (n : Nat) : (toString n).toList = digits n := by
  rw [Nat.toString_eq_ofList_toDigits, String.toList_ofList, digits]

end Decimal

namespace Score

theorem roundDiv_one (n : Nat) : roundDiv n 1 = n := by
  simp [roundDiv, Nat.mod_one]

/-- Rounding to 53 bits leaves a whole number of 53 bits as it is. -/
theorem wholeOfRatio_one {n : Nat} (h : n ≤ wholeBound) : wholeOfRatio n 1 = n := by
  rw [wholeBound, Nat.pow_eq] at h
  rw [wholeOfRatio, Nat.div_one]
  dsimp only [Nat.pow_eq]
  by_cases hlt : n < 2 ^ 53
  · rw [if_pos hlt, roundDiv_one, Nat.mul_div_cancel _ (Nat.two_pow_pos _)]
  · obtain rfl : n = 2 ^ 53 := Nat.le_antisymm h (Nat.le_of_not_lt hlt)
    rw [if_neg hlt]
    decide +kernel

theorem clamp_of_natAbs_le {n : Int} (h : n.natAbs ≤ wholeBound) : clamp n = n := by
  rw [wholeBound, Nat.pow_eq] at h
  have hmin : Int64.minValue.toInt = -2 ^ 63 := by decide
  have hmax : Int64.maxValue.toInt = 2 ^ 63 - 1 := by decide
  rw [clamp, hmin, hmax]
  omega

/-- A whole number of 53 bits is its own time. -/
theorem toTime_finite {n : Int} (h : n.natAbs ≤ wholeBound) :
    toTime (.finite (n < 0) n.natAbs 0) = n := by
  have hm : (if n.natAbs = 0 then 0 else if 0 > 20 then UInt64.size
      else wholeOfRatio (n.natAbs * Nat.pow 10 0) 1) = n.natAbs := by
    dsimp only [Nat.pow_eq]
    rw [Nat.pow_zero, Nat.mul_one, wholeOfRatio_one h]
    simp only [Nat.not_lt_zero, gt_iff_lt, if_false]
    split
    · next h0 => exact h0.symm
    · rfl
  have hs : (if decide (n < 0) = true then -(n.natAbs : Int) else n.natAbs) = n := by
    simp only [decide_eq_true_iff]
    omega
  calc toTime (.finite (n < 0) n.natAbs 0)
      = clamp (if decide (n < 0) = true then -(n.natAbs : Int) else n.natAbs) :=
        congrArg (fun m : Nat => clamp (if decide (n < 0) = true then -(m : Int) else m)) hm
    _ = n := by rw [hs, clamp_of_natAbs_le h]

end Score

end Text

end BuildQueue
