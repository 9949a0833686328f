import BuildQueue.Text.Decimal

/-!
# Scores as numbers of 53 bits

The scores of a sorted set are binary floating-point numbers of 53 bits, and travel as decimal text.
Reading one rounds to the nearest such number, half to even; the times that scores stand for are
whole and fit into 64 bits with a sign.
-/

namespace BuildQueue.Text

/-- A number as read: a decimal fraction, an infinity, or no number. -/
inductive Score where
  | finite (isNegative : Bool) (mantissa : Nat) (exponent : Int)
  | infinite (isNegative : Bool)
  | nan
  deriving DecidableEq, Repr

namespace Score

/-- Reads an optional exponent, which ends the text. -/
def exponent? : List Char → Option Int
  | [] => some 0
  | c :: rest =>
    if c = 'e' ∨ c = 'E' then
      match rest with
      | '-' :: ds => (Decimal.parse? ds).map fun n => -(n : Int)
      | '+' :: ds => (Decimal.parse? ds).map Int.ofNat
      | ds => (Decimal.parse? ds).map Int.ofNat
    else none

/-- Reads a number without its sign: digits, a point among or beside them, and an exponent. -/
def unsigned? (isNegative : Bool) (s : List Char) : Option Score :=
  let word := s.map Char.toLower
  if word = "inf".toList ∨ word = "infinity".toList then some (.infinite isNegative)
  else if word = "nan".toList then some .nan
  else
    let (whole, rest) := s.span Char.isDigit
    let (fraction, rest) := match rest with
      | '.' :: r => r.span Char.isDigit
      | r => ([], r)
    if whole.isEmpty && fraction.isEmpty then none
    else
      (exponent? rest).map fun e =>
        .finite isNegative (Decimal.valueOf (whole ++ fraction)) (e - fraction.length)

/-- Reads a score. -/
def parse? : List Char → Option Score
  | '-' :: rest => unsigned? true rest
  | '+' :: rest => unsigned? false rest
  | s => unsigned? false s

/-- The quotient rounded to the nearest whole number, half to even. -/
def roundDiv (p q : Nat) : Nat :=
  let n := p / q
  let r := p % q
  if 2 * r < q then n else if q < 2 * r then n + 1 else n + n % 2

/-- The whole part of `p / q` after rounding to 53 bits. -/
def wholeOfRatio (p q : Nat) : Nat :=
  let whole := p / q
  if whole < Nat.pow 2 53 then
    -- The bits behind the point that the number still has room for.
    let room := 53 - (if whole = 0 then 0 else whole.log2 + 1)
    roundDiv (p * Nat.pow 2 room) q / Nat.pow 2 room
  else
    let drop := whole.log2 - 52
    roundDiv p (q * Nat.pow 2 drop) * Nat.pow 2 drop

/-- The nearest number within the bounds of a time. -/
def clamp (n : Int) : Int := max Int64.minValue.toInt (min Int64.maxValue.toInt n)

/-- The time that a score stands for: its whole part, or the bound that it passes. -/
def toTime : Score → Int
  | .nan => 0
  | .infinite isNegative => if isNegative then Int64.minValue.toInt else Int64.maxValue.toInt
  | .finite isNegative mantissa exponent =>
    let magnitude : Nat :=
      match exponent with
      | .ofNat e => if mantissa = 0 then 0 else if e > 20 then UInt64.size else
          wholeOfRatio (mantissa * Nat.pow 10 e) 1
      | .negSucc e =>
        if (e + 1) > (Nat.toDigits 10 mantissa).length + 20 then 0
        else wholeOfRatio mantissa (Nat.pow 10 (e + 1))
    clamp (if isNegative then -magnitude else magnitude)

end Score

end BuildQueue.Text
