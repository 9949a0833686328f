import BuildQueue.Text.Category
import BuildQueue.Text.Ranges

/-!
# Decimal digits
-/

namespace BuildQueue.Text.DecimalDigit

/-- A decimal digit of any script. -/
def isDecimalDigit (c : Char) : Bool := Ranges.contains Category.decimalNumber c.toNat

theorem isDecimalDigit_of_isDigit {c : Char} (h : c.isDigit) : isDecimalDigit c := by
  simp only [Char.isDigit, Bool.and_eq_true, decide_eq_true_eq] at h
  obtain ⟨h1, h2⟩ := h
  have h1 : 48 ≤ c.toNat := h1
  have h2 : c.toNat ≤ 57 := h2
  simp [isDecimalDigit, Ranges.contains, Category.decimalNumber, h1, h2]

end BuildQueue.Text.DecimalDigit
