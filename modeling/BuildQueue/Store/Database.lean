import Std.Data.TreeMap

/-!
# A database of keys

The part of a networked key-value database that the scheduler uses: lists, tables, sorted sets and
texts that expire, each under a name, and its commands. A list or a set that has become empty is
gone.
-/

namespace BuildQueue

open Std (TreeMap)

/-- The state of the database. -/
structure Database where
  lists : TreeMap String (List String) := ∅
  hashes : TreeMap String (TreeMap String String) := ∅
  sortedSets : TreeMap String (TreeMap String Int) := ∅
  /-- Texts, each with the time at which it expires. -/
  texts : TreeMap String (String × Nat) := ∅
  /-- Milliseconds since the database was made. -/
  clock : Nat := 0

namespace Database

/-! ## Lists -/

/-- All of a list (`LRANGE key 0 -1`). -/
def lrange (d : Database) (key : String) : List String := d.lists.getD key []

/-- The first of a list (`LINDEX key 0`). -/
def lindex (d : Database) (key : String) : Option String := (d.lrange key).head?

def llen (d : Database) (key : String) : Nat := (d.lrange key).length

def putList (d : Database) (key : String) (items : List String) : Database :=
  { d with lists := if items.isEmpty then d.lists.erase key else d.lists.insert key items }

/-- Appends to a list (`RPUSH`). -/
def rpush (d : Database) (key item : String) : Database := d.putList key (d.lrange key ++ [item])

/-- Removes every occurrence from a list (`LREM key 0`). -/
def lrem (d : Database) (key item : String) : Database :=
  d.putList key ((d.lrange key).filter (· ≠ item))

/-! ## Tables -/

def hash (d : Database) (key : String) : TreeMap String String := d.hashes.getD key ∅

def putHash (d : Database) (key : String) (fields : TreeMap String String) : Database :=
  { d with hashes := if fields.isEmpty then d.hashes.erase key else d.hashes.insert key fields }

def hget (d : Database) (key field : String) : Option String := (d.hash key)[field]?

def hset (d : Database) (key field value : String) : Database :=
  d.putHash key ((d.hash key).insert field value)

def hdel (d : Database) (key field : String) : Database := d.putHash key ((d.hash key).erase field)

/-! ## Sorted sets -/

def sortedSet (d : Database) (key : String) : TreeMap String Int := d.sortedSets.getD key ∅

def putSet (d : Database) (key : String) (members : TreeMap String Int) : Database :=
  { d with
    sortedSets :=
      if members.isEmpty then d.sortedSets.erase key else d.sortedSets.insert key members }

def zscore (d : Database) (key member : String) : Option Int := (d.sortedSet key)[member]?

def zcard (d : Database) (key : String) : Nat := (d.sortedSet key).size

def zadd (d : Database) (key member : String) (score : Int) : Database :=
  d.putSet key ((d.sortedSet key).insert member score)

/-- Removes a member and says how many there were. -/
def zrem (d : Database) (key member : String) : Nat × Database :=
  (if (d.zscore key member).isSome then 1 else 0, d.putSet key ((d.sortedSet key).erase member))

/-- The order of a sorted set: by score, and at one score by name. -/
def scoreOrder (a b : String × Int) : Bool := a.2 < b.2 || (a.2 = b.2 && a.1 ≤ b.1)

/-- All of a sorted set in order (`ZRANGE key 0 -1 WITHSCORES`). -/
def zrange (d : Database) (key : String) : List (String × Int) :=
  (d.sortedSet key).toList.mergeSort scoreOrder

/-! ## Texts -/

def get (d : Database) (key : String) : Option String :=
  match d.texts[key]? with
  | some (text, expiry) => if expiry ≤ d.clock then none else some text
  | none => none

/-- Puts a text that expires after some seconds (`SET key text EX seconds`). -/
def setEx (d : Database) (key text : String) (seconds : Nat) : Database :=
  { d with texts := d.texts.insert key (text, d.clock + seconds * 1000) }

def advance (d : Database) (ms : Nat) : Database := { d with clock := d.clock + ms }

end Database

end BuildQueue
