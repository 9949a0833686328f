import Std.Data.TreeMap

/-!
# One at a time for each key

Calls that share a key take turns in the order in which they arrive; calls with different keys do
not wait for each other. A key is known as long as some call holds a claim on its slot. A claim is
counted, and so is the place of the slot in the table: the call that leaves when its claim is the
only one besides the table's takes the key out of the table.
-/

namespace BuildQueue

open Std (TreeMap)

/-- The turns of one key. -/
structure Slot where
  /-- How often the slot is held: by the table and by each call that has a claim. -/
  count : Nat
  /-- The calls in order of arrival; the first has the turn. -/
  line : List Nat
  deriving DecidableEq, Repr

/-- The claim of a call on the slot of a key. -/
structure Claim where
  key : String
  slot : Nat
  deriving DecidableEq, Repr

/-- All slots and claims. A slot goes by a number of its own, since a key that comes back gets a new
slot. -/
structure Serializer where
  /-- The slot of each key. -/
  table : TreeMap String Nat := ∅
  slots : TreeMap Nat Slot := ∅
  claims : TreeMap Nat Claim := ∅
  /-- The number of the next slot. -/
  next : Nat := 0

namespace Serializer

/-- How many keys have calls. -/
def pendingKeys (s : Serializer) : Nat := s.table.size

/-- The calls on a key in order of arrival. -/
def line (s : Serializer) (key : String) : List Nat :=
  match s.table[key]? with
  | some n => (s.slots[n]?.map Slot.line).getD []
  | none => []

/-- Whether a call has the turn of its key. -/
def hasTurn (s : Serializer) (call : Nat) : Bool :=
  match s.claims[call]? with
  | some c => (s.slots[c.slot]?.bind fun slot => slot.line.head?) = some call
  | none => false

/-- A call arrives: it claims the slot of its key, which is made if there is none, and joins its
line. -/
def arrive (s : Serializer) (call : Nat) (key : String) : Serializer :=
  match s.table[key]? with
  | some n =>
    let slot := s.slots.getD n ⟨1, []⟩
    { s with
      slots := s.slots.insert n ⟨slot.count + 1, slot.line ++ [call]⟩
      claims := s.claims.insert call ⟨key, n⟩ }
  | none =>
    { table := s.table.insert key s.next
      slots := s.slots.insert s.next ⟨2, [call]⟩
      claims := s.claims.insert call ⟨key, s.next⟩
      next := s.next + 1 }

/-- A call leaves, whether its work is done or it was given up while it worked or waited. Says which
call gets the turn by that. -/
def leave (s : Serializer) (call : Nat) : Option Nat × Serializer :=
  match s.claims[call]? with
  | none => (none, s)
  | some c =>
    let slot := s.slots.getD c.slot ⟨1, []⟩
    let line := slot.line.filter (· ≠ call)
    let woken := if slot.line.head? = some call then line.head? else none
    let last := slot.count = 2 ∧ s.table[c.key]? = some c.slot
    (woken,
      { s with
        table := if last then s.table.erase c.key else s.table
        slots :=
          if last then s.slots.erase c.slot else s.slots.insert c.slot ⟨slot.count - 1, line⟩
        claims := s.claims.erase call })

end Serializer

end BuildQueue
