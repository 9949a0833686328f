import BuildQueue.Text.Decimal

/-!
# Timestamps

A time in milliseconds since 1970 as the calendar writes it, in UTC.
-/

namespace BuildQueue.Text.Timestamp

/-- A day of the calendar. -/
structure Date where
  year : Int
  month : Nat
  day : Nat
  deriving DecidableEq, Repr

/-- The date of a day counted from 1970-01-01. Years are taken to start in March, so that the day
that leap years add is the last one. -/
def Date.ofDays (days : Int) : Date :=
  let z := days + 719468
  -- The era of 400 years, the day in it, the year in it and the day in the year.
  let era := z.fdiv 146097
  let doe := (z.fmod 146097).toNat
  let yoe := (doe - doe / 1460 + doe / 36524 - doe / 146096) / 365
  let doy := doe - (365 * yoe + yoe / 4 - yoe / 100)
  let mp := (5 * doy + 2) / 153
  let month := if mp < 10 then mp + 3 else mp - 9
  { year := era * 400 + yoe + (if month ≤ 2 then 1 else 0), month
    day := doy - (153 * mp + 2) / 5 + 1 }

/-- The digits of a number, filled up with zeros on the left. -/
def padded (width n : Nat) : List Char :=
  let ds := Decimal.digits n
  List.replicate (width - ds.length) '0' ++ ds

/-- A year in four digits; one outside of 0 to 9999 has a sign. -/
def year (y : Int) : List Char :=
  if 0 ≤ y ∧ y ≤ 9999 then padded 4 y.toNat
  else (if y < 0 then '-' else '+') :: padded 4 y.natAbs

def msPerDay : Int := 86400000

/-- The first and the last time that the calendar reaches. -/
def first : Int := -8334601228800000

def last : Int := 8210266876799999

/-- A time with the offset of UTC; the fraction is left out when it is zero. -/
def format (ms : Int) : List Char :=
  let date := Date.ofDays (ms.fdiv msPerDay)
  let t := (ms.fmod msPerDay).toNat
  let fraction := if t % 1000 = 0 then [] else '.' :: padded 3 (t % 1000)
  year date.year ++ '-' :: padded 2 date.month ++ '-' :: padded 2 date.day ++ 'T' ::
    padded 2 (t / 3600000) ++ ':' :: padded 2 (t / 60000 % 60) ++ ':' :: padded 2 (t / 1000 % 60) ++
    fraction ++ "+00:00".toList

/-- A time as people read it, or its milliseconds where the calendar does not reach. -/
def display (ms : Int) : String :=
  if first ≤ ms ∧ ms ≤ last then String.ofList (format ms) else toString ms

end BuildQueue.Text.Timestamp
