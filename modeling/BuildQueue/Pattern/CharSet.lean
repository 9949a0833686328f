import BuildQueue.Pattern.CaseFolding
import BuildQueue.Text.Ranges

/-!
# Sets of characters

The sets that a pattern can name, as expressions over ranges of code points. Membership is
decidable; no set is ever listed.
-/

namespace BuildQueue.Pattern

/-- A set of code points. -/
inductive CharSet where
  | ranges (rs : List (Nat × Nat))
  | union (a b : CharSet)
  | inter (a b : CharSet)
  | diff (a b : CharSet)
  | compl (a : CharSet)
  /-- Closed under change of case; with `ascii`, only ASCII letters change it. -/
  | caseless (ascii : Bool) (a : CharSet)

namespace CharSet

def contains : CharSet → Nat → Bool
  | ranges rs, n => Text.Ranges.contains rs n
  | union a b, n => a.contains n || b.contains n
  | inter a b, n => a.contains n && b.contains n
  | diff a b, n => a.contains n && !b.contains n
  | compl a, n => !a.contains n
  | caseless ascii a, n =>
    a.contains n ||
      (CaseFolding.orbit n).any fun m => (!ascii || n < 0x80 && m < 0x80) && a.contains m

def empty : CharSet := ranges []

def single (n : Nat) : CharSet := ranges [(n, n)]

/-- In exactly one of two sets. -/
def symmDiff (a b : CharSet) : CharSet := union (diff a b) (diff b a)

/-- The union of many sets. -/
def unions : List CharSet → CharSet
  | [] => empty
  | [a] => a
  | a :: rest => union a (unions rest)

/-- Whether every byte value of the set is ASCII. -/
def isAscii (s : CharSet) : Bool := (List.range 0x80).all fun n => !s.contains (0x80 + n)

/-- How many ranges the set is made of. -/
def rangeCount : CharSet → Nat
  | ranges rs => rs.length
  | union a b => a.rangeCount + b.rangeCount
  | inter a b => max a.rangeCount b.rangeCount
  | diff a b => a.rangeCount + b.rangeCount
  | compl a => a.rangeCount + 1
  | caseless _ a => 2 * a.rangeCount

end CharSet

end BuildQueue.Pattern
