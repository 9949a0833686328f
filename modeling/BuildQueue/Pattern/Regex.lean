import BuildQueue.Pattern.CharSet

/-!
# Regular expressions and what they match

An expression leads from a set of positions of a text to the set of positions at which a match that
started there can end. Everything is total: a repetition without bound is followed until no new
position can turn up.
-/

namespace BuildQueue.Pattern

/-- A condition on a position of a text. -/
inductive Look where
  | textStart
  | textEnd
  | lineStart
  | lineEnd
  /-- Like `lineStart` and `lineEnd` where a line ends in `\r`, `\n` or both. -/
  | anyLineStart
  | anyLineEnd
  /-- The edge of a word, where `ascii` words are of ASCII characters only. -/
  | wordEdge (ascii : Bool)
  | noWordEdge (ascii : Bool)
  | wordStart (ascii : Bool)
  | wordEnd (ascii : Bool)
  | noWordBefore (ascii : Bool)
  | noWordAfter (ascii : Bool)
  deriving DecidableEq, Repr

/-- A regular expression. -/
inductive Regex where
  | empty
  | chars (set : CharSet)
  | look (condition : Look)
  | seq (a b : Regex)
  | alt (a b : Regex)
  /-- At least `min` and, where there is a bound, at most `max` times. -/
  | repeated (a : Regex) (min : Nat) (max : Option Nat)

/-- The characters of words, of ASCII or of all scripts. -/
structure WordChars where
  unicode : CharSet
  ascii : CharSet

namespace Look

/-- Whether a condition holds between the characters `before` and `after`. -/
def holds (words : WordChars) (before after : Option Char) : Look → Bool
  | textStart => before.isNone
  | textEnd => after.isNone
  | lineStart => before.isNone || before = some '\n'
  | lineEnd => after.isNone || after = some '\n'
  | anyLineStart =>
    before.isNone || before = some '\n' || (before = some '\r' && after ≠ some '\n')
  | anyLineEnd => after.isNone || after = some '\r' || (after = some '\n' && before ≠ some '\r')
  | wordEdge ascii => isWord ascii before != isWord ascii after
  | noWordEdge ascii => isWord ascii before == isWord ascii after
  | wordStart ascii => !isWord ascii before && isWord ascii after
  | wordEnd ascii => isWord ascii before && !isWord ascii after
  | noWordBefore ascii => !isWord ascii before
  | noWordAfter ascii => !isWord ascii after
where
  isWord (ascii : Bool) (c : Option Char) : Bool :=
    c.any fun c => (if ascii then words.ascii else words.unicode).contains c.toNat

end Look

namespace Regex

/-- The positions of either list, each once. -/
def merge (p q : List Nat) : List Nat := p ++ q.filter fun i => !p.contains i

/-- Applies a step to a set of positions a number of times. -/
def iterate (step : List Nat → List Nat) : Nat → List Nat → List Nat
  | 0, ps => ps
  | n + 1, ps => iterate step n (step ps)

/-- The positions at which a match that starts at one of `ps` can end. -/
def ends (words : WordChars) (text : Array Char) : Regex → List Nat → List Nat
  | empty, ps => ps
  | chars set, ps =>
    ps.filterMap fun i => if text[i]?.any (set.contains ·.toNat) then some (i + 1) else none
  | look condition, ps =>
    ps.filter fun i =>
      condition.holds words (if i = 0 then none else text[i - 1]?) text[i]?
  | seq a b, ps => ends words text b (ends words text a ps)
  | alt a b, ps => merge (ends words text a ps) (ends words text b ps)
  | repeated a min max, ps =>
    let further := text.size + 1
    iterate (fun qs => merge qs (ends words text a qs))
      (match max with | none => further | some m => Nat.min (m - min) further)
      (iterate (ends words text a) min ps)

/-- Whether an expression matches some part of a text. -/
def matchesWithin (words : WordChars) (r : Regex) (text : Array Char) : Bool :=
  !(r.ends words text (List.range (text.size + 1))).isEmpty

/-- The memory that a compiled expression takes, in bytes: a state for each character, and a
network of states for each set beyond ASCII. -/
def weight : Regex → Nat
  | empty => 32
  | chars set => if set.rangeCount ≤ 4 then 32 * set.rangeCount.max 1 else 58 * set.rangeCount
  | look _ => 32
  | seq a b => a.weight + b.weight
  | alt a b => a.weight + b.weight + 32
  | repeated a min max =>
    match max with
    | none => a.weight * min.max 1 + 32
    | some m => (a.weight + if min < m then 32 else 0) * m

end Regex

end BuildQueue.Pattern
