import BuildQueue.Store.Reply
import BuildQueue.Store.Script
import BuildQueue.Text.Score

/-!
# The store that processes share

The client side of the database: it sends a script or a command and reads what comes back. What the
database answers is untyped, so each reader says what it accepts; any other answer is an error.
-/

namespace BuildQueue

/-- An answer of the database. -/
inductive Value where
  | nil
  | int (n : Int)
  | bulk (text : String)
  | array (items : List Value)
  | error (text : String)
  deriving Repr, Inhabited

namespace Value

def ofTexts (texts : List String) : Value := array (texts.map bulk)

/-- A text; a number is read as its digits. -/
def text? : Value → Option String
  | bulk s => some s
  | int n => some (toString n)
  | _ => none

/-- A text that may be missing. -/
def optional? : Value → Option (Option String)
  | nil => some none
  | v => v.text?.map some

/-- A list; a missing one is empty, and a text stands for the list of it alone. -/
def listOf? {α : Type} (read : Value → Option α) : Value → Option (List α)
  | nil => some []
  | array items => items.mapM read
  | bulk s => (read (bulk s)).map ([·])
  | _ => none

/-- A whole number, as such or as its digits. -/
def int? : Value → Option Int
  | int n => some n
  | bulk s =>
    let n? := match s.toList with
      | '-' :: ds => (Text.Decimal.parse? ds).map fun n => -(n : Int)
      | '+' :: ds => (Text.Decimal.parse? ds).map Int.ofNat
      | ds => (Text.Decimal.parse? ds).map Int.ofNat
    n?.filter fun n => Int64.minValue.toInt ≤ n ∧ n ≤ Int64.maxValue.toInt
  | _ => none

/-- A score. -/
def score? : Value → Option Int
  | int n => some (Text.Score.toTime (.finite (n < 0) n.natAbs 0))
  | bulk s => (Text.Score.parse? s.toList).map Text.Score.toTime
  | _ => none

/-- Members that alternate with their scores; one at the end without a score does not count. -/
def scored? : List Value → Option (List (String × Int))
  | member :: score :: rest => do
    return (← member.text?, ← score.score?) :: (← scored? rest)
  | _ => some []

end Value

namespace Shared

/-- The whole seconds of a time to live; the database knows no shorter one than one second. -/
def seconds (ttl : Nat) : Nat := (ttl / 1000).max 1

/-- The empty text says that there is nothing. -/
def nonEmpty (s : String) : Option String := if s.isEmpty then none else some s

/-- A size that a push answers, with or without a plus sign. -/
def size? (s : String) : Option Nat :=
  let n? := match s.toList with
    | '+' :: ds => Text.Decimal.parse? ds
    | ds => Text.Decimal.parse? ds
  n?.filter (· < UInt64.size)

/-- Whatever cannot be read is an error of the store. -/
def orStore {α : Type} : Option α → Except SchedulerError α
  | some a => .ok a
  | none => .error .store

def readPush (v : Value) : Except SchedulerError PushReply := do
  match ← orStore (v.listOf? Value.text?) with
  | [size, cancelled, aborted, duplicate, previous] =>
    match size? size with
    | some n =>
      return ⟨n, nonEmpty cancelled, nonEmpty aborted, duplicate = "1", nonEmpty previous⟩
    | none => .error (.malformedReply (.pushSize size))
  | fields => .error (.malformedReply (.pushFields fields.length))

def readStart (v : Value) : Except SchedulerError StartReply :=
  match v with
  | .array [admitted, stale] => do
    return ⟨← orStore (admitted.listOf? Value.text?), ← orStore (stale.listOf? Value.text?)⟩
  | _ => .error .store

def readComplete (v : Value) : Except SchedulerError Bool := do
  return (← orStore v.int?) == 1

def readSwap (v : Value) : Except SchedulerError SwapReply := do
  match ← orStore (v.listOf? Value.text?) with
  | [applied, rest] =>
    if applied = "1" then return .applied (rest = "1") else return .rejected (nonEmpty rest)
  | fields => .error (.malformedReply (.swapFields fields.length))

def readStatus (v : Value) : Except SchedulerError (Option String) := orStore v.optional?

def readMembers (v : Value) : Except SchedulerError (List (String × Int)) :=
  match v with
  | .nil => .ok []
  | .array items => orStore (Value.scored? items)
  | _ => .error .store

def readLabels (v : Value) : Except SchedulerError (List (Option String)) :=
  orStore (v.listOf? Value.optional?)

/-- The entries of a pool from its members and their labels, as far as both go. -/
def entries (members : List (String × Int)) (labels : List (Option String)) : List PoolEntry :=
  (members.zip labels).map fun ((job, since), label) => ⟨job, label, since⟩

end Shared

/-- A command that an operation sends. -/
inductive Command where
  | script
  | get
  | zrange
  | hmget
  deriving DecidableEq, Repr

/-- An answer that the database gives to the next command of a kind in place of running it. -/
structure Override where
  command : Command
  value : Value

/-- A database that may be told to give some answer. A script that the database says it does not
have is sent and run after all. -/
structure Shared where
  database : Database := {}
  override? : Option Override := none

namespace Shared

/-- What the database answers in place of running a command. -/
def forced? (s : Shared) (command : Command) : Option Value :=
  match s.override? with
  | some o =>
    if o.command = command then
      match o.value with
      | .error text => if "NOSCRIPT".toList.isPrefixOf text.toList then none else some o.value
      | v => some v
    else none
  | none => none

/-- Runs a command, or lets the database give its forced answer. -/
def send (s : Shared) (command : Command) (run : Database → Value × Database) : Value × Shared :=
  match s.forced? command with
  | some v => (v, { s with override? := none })
  | none =>
    let (v, d) := run s.database
    (v, { s with database := d })

def push (s : Shared) (queue : String) (pools : PoolKeys) (job label : String) (ttl : Nat)
    (now : Int) : Except SchedulerError PushReply × Shared :=
  let (v, s) := s.send .script fun d =>
    let (texts, d) := Script.push queue pools job label now (seconds ttl) d
    (.ofTexts texts, d)
  (readPush v, s)

def start (s : Shared) (pools : PoolKeys) (max ttl : Nat) (now : Int) :
    Except SchedulerError StartReply × Shared :=
  let (v, s) := s.send .script fun d =>
    let ((admitted, stale), d) := Script.start pools max now (seconds ttl) d
    (.array [.ofTexts admitted, .ofTexts stale], d)
  (readStart v, s)

def complete (s : Shared) (queue : String) (pools : PoolKeys) (job : String) (now : Int) :
    Except SchedulerError Bool × Shared :=
  let (v, s) := s.send .script fun d =>
    let (found, d) := Script.retire queue pools job now d
    (.int found, d)
  (readComplete v, s)

def swap (s : Shared) (pools : PoolKeys) (swap : StatusSwap) (ttl : Nat) (now : Int) :
    Except SchedulerError SwapReply × Shared :=
  let (v, s) := s.send .script fun d =>
    let (texts, d) := Script.swap pools swap.queue swap.job swap.expected swap.next (seconds ttl)
      swap.retire now d
    (.ofTexts texts, d)
  (readSwap v, s)

def optionalText (t : Option String) : Value := (t.map Value.bulk).getD .nil

def status (s : Shared) (name : String) : Except SchedulerError (Option String) × Shared :=
  let (v, s) := s.send .get fun d => (optionalText (d.get name), d)
  (readStatus v, s)

/-- Reads a pool: its members, and then, if there are any, their labels. -/
def pool (s : Shared) (pools : PoolKeys) (which : Pool) :
    Except SchedulerError (List PoolEntry) × Shared :=
  let key := match which with
    | .ready => pools.ready
    | .active => pools.active
  let (v, s) := s.send .zrange fun d =>
    (.array ((d.zrange key).flatMap fun (job, score) => [.bulk job, .int score]), d)
  match readMembers v with
  | .error e => (.error e, s)
  | .ok [] => (.ok [], s)
  | .ok members =>
    let (v, s) := s.send .hmget fun d =>
      (.array (members.map fun (job, _) => optionalText (d.hget pools.labels job)), d)
    ((readLabels v).map (entries members), s)

end Shared

end BuildQueue
