/-!
# Decimal numerals
-/

namespace BuildQueue.Text.Decimal

/-- The value of a run of ASCII digits. -/
def valueOf (digits : List Char) : Nat :=
  digits.foldl (fun n c => n * 10 + (c.toNat - '0'.toNat)) 0

/-- Reads a non-empty run of ASCII digits; leading zeros are allowed. -/
def parse? (s : List Char) : Option Nat :=
  if s ≠ [] ∧ s.all Char.isDigit then some (valueOf s) else none

/-- Reads a numeral whose value fits into 64 bits. -/
def parseWord? (s : List Char) : Option UInt64 :=
  match parse? s with
  | some n => if n < UInt64.size then some (UInt64.ofNat n) else none
  | none => none

/-- The digits of a number, without leading zeros. -/
def digits (n : Nat) : List Char := Nat.toDigits 10 n

end BuildQueue.Text.Decimal
