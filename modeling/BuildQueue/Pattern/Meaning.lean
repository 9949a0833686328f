import BuildQueue.Pattern.Grammar
import BuildQueue.Pattern.Regex

/-!
# The meaning of a written pattern

Flags act from where they are set to the end of the group around them. A pattern has no meaning if
it could match a part of a character, or if its expression would grow too large.
-/

namespace BuildQueue.Pattern

/-- The flags in force at a place of a pattern. -/
structure Flags where
  caseless : Bool := false
  multiLine : Bool := false
  dotAll : Bool := false
  unicode : Bool := true
  anyNewline : Bool := false
  deriving DecidableEq, Repr

namespace Flags

def set (f : Flags) : Flag × Bool → Flags
  | (.caseless, on) => { f with caseless := on }
  | (.multiLine, on) => { f with multiLine := on }
  | (.dotAll, on) => { f with dotAll := on }
  | (.unicode, on) => { f with unicode := on }
  | (.anyNewline, on) => { f with anyNewline := on }
  | (.swapGreed, _) => f
  | (.verbose, _) => f

def apply (f : Flags) (change : FlagChange) : Flags := change.foldl set f

/-- Closes a set under change of case where the flags ask for it. -/
def fold (f : Flags) (s : CharSet) : CharSet :=
  if f.caseless then .caseless (!f.unicode) s else s

/-- Without Unicode a set stands for bytes, and those beyond ASCII are no characters. -/
def checked (f : Flags) (s : CharSet) : Option CharSet :=
  if f.unicode || s.isAscii then some s else none

def negated (negate : Bool) (s : CharSet) : CharSet := if negate then .compl s else s

end Flags

/-- The characters of words. -/
def wordChars : WordChars where
  unicode := Property.word
  ascii := .ranges [(0x30, 0x39), (0x41, 0x5A), (0x5F, 0x5F), (0x61, 0x7A)]

/-- The set of a class that goes by one letter. -/
def LetterClass.set (unicode : Bool) : LetterClass → CharSet
  | digit => if unicode then .ranges Text.Category.decimalNumber else .ranges [(0x30, 0x39)]
  | space => if unicode then Property.whiteSpace else .ranges [(9, 0xD), (0x20, 0x20)]
  | word => if unicode then wordChars.unicode else wordChars.ascii

/-- The set of one character. Without Unicode, a byte beyond ASCII is no character. -/
def literalSet (f : Flags) (c : Char) (byte : Bool) : Option CharSet :=
  if f.unicode then some (f.fold (.single c.toNat))
  else if c.toNat < 0x80 then some (f.fold (.single c.toNat))
  else if byte then none
  else some (.single c.toNat)

/-- The set of the inside of a class. -/
def ClassNode.set (f : Flags) : ClassNode → Option CharSet
  | literal c _ => if f.unicode || c.toNat < 0x80 then some (.single c.toNat) else none
  | range lo hi _ =>
    if f.unicode || hi.toNat < 0x80 then some (.ranges [(lo.toNat, hi.toNat)]) else none
  | ascii neg s => f.checked (Flags.negated neg (f.fold s))
  | letter neg kind => f.checked (Flags.negated neg (kind.set f.unicode))
  | property neg s => if f.unicode then some (Flags.negated neg (f.fold s)) else none
  | union items => (sets items).map CharSet.unions
  | op kind a b => do
    let a := f.fold (← a.set f)
    let b := f.fold (← b.set f)
    return match kind with
      | .inter => .inter a b
      | .diff => .diff a b
      | .symmDiff => .symmDiff a b
  | bracket neg inside => do
    f.checked (Flags.negated neg (f.fold (← inside.set f)))
where
  sets : List ClassNode → Option (List CharSet)
    | [] => some []
    | a :: rest => do return (← a.set f) :: (← sets rest)

/-- The condition that an anchor stands for. -/
def Anchor.look (f : Flags) : Anchor → Look
  | lineStart =>
    if f.multiLine then (if f.anyNewline then .anyLineStart else .lineStart) else .textStart
  | lineEnd => if f.multiLine then (if f.anyNewline then .anyLineEnd else .lineEnd) else .textEnd
  | textStart => .textStart
  | textEnd => .textEnd
  | wordEdge => .wordEdge (!f.unicode)
  | noWordEdge => .noWordEdge (!f.unicode)
  | wordStart => .wordStart (!f.unicode)
  | wordEnd => .wordEnd (!f.unicode)
  | noWordBefore => .noWordBefore (!f.unicode)
  | noWordAfter => .noWordAfter (!f.unicode)

/-- The characters that a dot stands for. -/
def dotSet (f : Flags) : CharSet :=
  if f.dotAll then Property.all
  else if f.anyNewline then .compl (.ranges [(0xA, 0xA), (0xD, 0xD)])
  else .compl (.single 0xA)

/-- The expression of a written pattern under flags, and the flags after it. -/
def Node.meaning (f : Flags) : Node → Option (Regex × Flags)
  | empty => some (.empty, f)
  | flags change => some (.empty, f.apply change)
  | literal c byte => do return (.chars (← literalSet f c byte), f)
  | dot => if f.unicode then some (.chars (dotSet f), f) else none
  | anchor kind => some (.look (kind.look f), f)
  | letter neg kind => do return (.chars (← f.checked (Flags.negated neg (kind.set f.unicode))), f)
  | property neg s => if f.unicode then some (.chars (Flags.negated neg (f.fold s)), f) else none
  | bracket neg inside => do
    return (.chars (← f.checked (Flags.negated neg (f.fold (← inside.set f)))), f)
  | repeated a min max => do
    let (r, f) ← a.meaning f
    return (.repeated r min max, f)
  | group change a => do
    let (r, _) ← a.meaning (f.apply change)
    return (r, f)
  | concat items => sequence f items
  | alt branches => choice f branches
where
  sequence (f : Flags) : List Node → Option (Regex × Flags)
    | [] => some (.empty, f)
    | a :: rest => do
      let (r, f) ← a.meaning f
      let (s, f) ← sequence f rest
      return (.seq r s, f)
  choice (f : Flags) : List Node → Option (Regex × Flags)
    | [] => some (.chars .empty, f)
    | a :: rest => do
      let (r, f) ← a.meaning f
      let (s, f) ← choice f rest
      return (.alt r s, f)

/-- The greatest weight of an expression. -/
def maxWeight : Nat := 10 * 1024 * 1024

/-- Reads a pattern as an expression. -/
def Regex.parse? (pattern : List Char) : Option Regex := do
  let node ← Node.parse? pattern
  let (r, _) ← node.meaning {}
  if r.weight ≤ maxWeight then some r else none

end BuildQueue.Pattern
