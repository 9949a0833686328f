import BuildQueue.Pattern.Property
import BuildQueue.Text.Hex

/-!
# The written form of patterns

Patterns are read into a tree that keeps what was written: flags, classes, repetitions and groups.
Look-around and back-references do not belong to the language. Reading fails as a whole; a pattern
has no place where it is wrong.
-/

namespace BuildQueue.Pattern

/-- A mode that can be switched inside a pattern. -/
inductive Flag where
  | caseless
  | multiLine
  | dotAll
  | swapGreed
  | unicode
  | anyNewline
  | verbose
  deriving DecidableEq, Repr

/-- The letter of a flag. -/
def Flag.ofLetter? : Char → Option Flag
  | 'i' => some caseless
  | 'm' => some multiLine
  | 's' => some dotAll
  | 'U' => some swapGreed
  | 'u' => some unicode
  | 'R' => some anyNewline
  | 'x' => some verbose
  | _ => none

/-- Flags to switch on (`true`) or off. -/
abbrev FlagChange := List (Flag × Bool)

/-- The classes that go by one letter. -/
inductive LetterClass where
  | digit
  | space
  | word
  deriving DecidableEq, Repr

/-- An anchor or an edge of a word, before flags say what it means. -/
inductive Anchor where
  | lineStart
  | lineEnd
  | textStart
  | textEnd
  | wordEdge
  | noWordEdge
  | wordStart
  | wordEnd
  | noWordBefore
  | noWordAfter
  deriving DecidableEq, Repr

/-- How two classes are joined. -/
inductive ClassOp where
  | inter
  | diff
  | symmDiff
  deriving DecidableEq, Repr

/-- The inside of a bracketed class. -/
inductive ClassNode where
  /-- A character; `byte` when it is written as `\x` and two digits. -/
  | literal (c : Char) (byte : Bool)
  | range (lo hi : Char) (byte : Bool)
  | ascii (negated : Bool) (set : CharSet)
  | letter (negated : Bool) (kind : LetterClass)
  | property (negated : Bool) (set : CharSet)
  | union (items : List ClassNode)
  | op (kind : ClassOp) (a b : ClassNode)
  | bracket (negated : Bool) (inside : ClassNode)

/-- A pattern as written. -/
inductive Node where
  | empty
  | flags (change : FlagChange)
  | literal (c : Char) (byte : Bool)
  | dot
  | anchor (kind : Anchor)
  | letter (negated : Bool) (kind : LetterClass)
  | property (negated : Bool) (set : CharSet)
  | bracket (negated : Bool) (inside : ClassNode)
  | repeated (a : Node) (min : Nat) (max : Option Nat)
  | group (change : FlagChange) (a : Node)
  | concat (items : List Node)
  | alt (branches : List Node)

namespace ClassNode

/-- How deep classes are nested, counting unions and operators. -/
def depth : ClassNode → Nat
  | union items => depths items + 1
  | op _ a b => Nat.max a.depth b.depth + 1
  | bracket _ inside => inside.depth + 1
  | _ => 0
where
  depths : List ClassNode → Nat
    | [] => 0
    | a :: rest => Nat.max a.depth (depths rest)

end ClassNode

namespace Node

/-- The tree of a sequence. -/
def ofItems : List Node → Node
  | [] => empty
  | [a] => a
  | items => concat items

/-- The tree of alternatives. -/
def ofBranches : List Node → Node
  | [] => empty
  | [a] => a
  | branches => alt branches

/-- How deep groups, repetitions, sequences, alternatives and classes are nested. -/
def depth : Node → Nat
  | bracket _ inside => inside.depth + 1
  | repeated a _ _ => a.depth + 1
  | group _ a => a.depth + 1
  | concat items => depths items + 1
  | alt branches => depths branches + 1
  | _ => 0
where
  depths : List Node → Nat
    | [] => 0
    | a :: rest => Nat.max a.depth (depths rest)

end Node

/-- What is left to read, whether blanks and comments are skipped, and the group names seen. -/
structure Cursor where
  rest : List Char
  verbose : Bool
  names : List (List Char)

/-- A reader of patterns. -/
abbrev Reader := StateT Cursor Option

namespace Reader

def peek? : Reader (Option Char) := do return (← get).rest.head?

def isEnd : Reader Bool := do return (← get).rest.isEmpty

/-- The next character; fails at the end. -/
def peek : Reader Char := do
  match (← get).rest with
  | c :: _ => return c
  | [] => failure

def bump : Reader Unit := modify fun s => { s with rest := s.rest.drop 1 }

def isBlank (c : Char) : Bool := Property.whiteSpace.contains c.toNat

/-- What follows blanks and comments, each of which runs to the end of its line. -/
def afterBlanks (inComment : Bool) : List Char → List Char
  | [] => []
  | c :: rest =>
    if inComment then afterBlanks (c ≠ '\n') rest
    else if c = '#' then afterBlanks true rest
    else if isBlank c then afterBlanks false rest
    else c :: rest

/-- Skips blanks and comments where they may be skipped. -/
def skip : Reader Unit := modify fun s =>
  if s.verbose then { s with rest := afterBlanks false s.rest } else s

def bumpSkip : Reader Unit := do bump; skip

/-- Like `bumpSkip`, but something must follow. -/
def bumpSkipMore : Reader Unit := do
  bumpSkip
  if ← isEnd then failure

/-- Takes `s` if it comes next. -/
def eat (s : String) : Reader Bool := do
  let cursor ← get
  if s.toList.isPrefixOf cursor.rest then
    set { cursor with rest := cursor.rest.drop s.length }
    return true
  else return false

def require (p : Bool) : Reader Unit := if p then pure () else failure

/-- The character after the next one, blanks and comments aside. -/
def peekAfter? : Reader (Option Char) := do
  let cursor ← get
  let rest := cursor.rest.drop 1
  return (if cursor.verbose then afterBlanks false rest else rest).head?

end Reader

open Reader

/-- One thing that an escape or a plain character stands for. -/
inductive Primitive where
  | literal (c : Char) (byte : Bool)
  | anchor (kind : Anchor)
  | letter (negated : Bool) (kind : LetterClass)
  | property (negated : Bool) (set : CharSet)

namespace Primitive

def toNode : Primitive → Node
  | literal c byte => .literal c byte
  | anchor kind => .anchor kind
  | letter negated kind => .letter negated kind
  | property negated set => .property negated set

/-- As an item of a class, where no anchor can stand. -/
def toClass? : Primitive → Option ClassNode
  | literal c byte => some (.literal c byte)
  | anchor _ => none
  | letter negated kind => some (.letter negated kind)
  | property negated set => some (.property negated set)

end Primitive

/-- The character with a code point, if there is one. -/
def charOf? (n : Nat) : Option Char := if n.isValidChar then some (Char.ofNat n) else none

/-- Reads exactly `count` hexadecimal digits, the first of which comes next. -/
def hexDigits : Nat → Nat → Reader Nat
  | 0, n => return n
  | count + 1, n => do
    let some d := Text.Hex.digit? (← peek) | failure
    bumpSkip
    hexDigits count (n * 16 + d.val)

/-- Reads hexadecimal digits up to a closing brace. -/
def hexBrace : Nat → Option Nat → Reader Nat
  | 0, _ => failure
  | fuel + 1, n => do
    let c ← peek
    if c = '\x7d' then
      bumpSkip
      let some n := n | failure
      return n
    else
      let some d := Text.Hex.digit? c | failure
      bumpSkip
      hexBrace fuel (some (n.getD 0 * 16 + d.val))

/-- Reads a code point after `\x`, `\u` or `\U`, which allow 2, 4 and 8 digits, or digits in
braces. -/
def hexEscape (count : Nat) : Reader Primitive := do
  bumpSkipMore
  if (← peek) = '\x7b' then
    bumpSkip
    let n ← hexBrace ((← get).rest.length + 1) none
    let some c := charOf? n | failure
    return .literal c false
  else
    let n ← hexDigits count 0
    let some c := charOf? n | failure
    return .literal c (count = 2)

/-- Reads what stands before the next closing brace. -/
def upToBrace : Nat → List Char → Reader (List Char)
  | 0, _ => failure
  | fuel + 1, taken => do
    let c ← peek
    if c = '\x7d' then
      bump
      return taken.reverse
    else
      bumpSkip
      upToBrace fuel (c :: taken)

/-- What stands before and after the first occurrence of `sep`. -/
def cut? (sep : List Char) : List Char → Option (List Char × List Char)
  | [] => none
  | c :: rest =>
    if sep.isPrefixOf (c :: rest) then some ([], (c :: rest).drop sep.length)
    else (cut? sep rest).map fun (a, b) => (c :: a, b)

/-- The set that stands between the braces of a property, and whether its complement is meant. -/
def propertyOf? (text : List Char) : Option (Bool × CharSet) :=
  match cut? ['!', '='] text with
  | some (p, v) => (Property.valued? p v).map (true, ·)
  | none =>
    match (cut? [':'] text).or (cut? ['='] text) with
    | some (p, v) => (Property.valued? p v).map (false, ·)
    | none => (Property.named? text).map (false, ·)

/-- Reads a property after `\p` or `\P`. -/
def propertyEscape (negated : Bool) : Reader Primitive := do
  bumpSkipMore
  let c ← peek
  if c = '\x7b' then
    bumpSkip
    let text ← upToBrace ((← get).rest.length + 1) []
    let some (inverse, set) := propertyOf? text | failure
    return .property (negated != inverse) set
  else
    require (c ≠ '\\')
    bump
    let some set := Property.named? [c] | failure
    return .property negated set

/-- A character with a meaning in patterns. -/
def isMeta (c : Char) : Bool := "\\.+*?()|[]\x7b\x7d^$#&-~".toList.contains c

/-- A character that stands for itself after a backslash. -/
def isEscapable (c : Char) : Bool :=
  isMeta c || (c.toNat < 0x80 && !c.isAlphanum && c ≠ '<' && c ≠ '>')

/-- Reads letters and hyphens. -/
def wordName : Nat → List Char → Reader (List Char)
  | 0, _ => failure
  | fuel + 1, taken => do
    match ← peek? with
    | some c =>
      if c.isAlpha || c = '-' then
        bumpSkip
        wordName fuel (c :: taken)
      else return taken.reverse
    | none => return taken.reverse

/-- Reads the name of an edge of a word up to and with the closing brace. -/
def edgeName : Reader Anchor := do
  let name ← wordName ((← get).rest.length + 1) []
  require ((← peek?) = some '\x7d')
  bump
  if name = "start".toList then return .wordStart
  if name = "end".toList then return .wordEnd
  if name = "start-half".toList then return .noWordBefore
  if name = "end-half".toList then return .noWordAfter
  failure

/-- Reads the name in braces that may follow `\b`; a brace that no name follows belongs to a
repetition. -/
def edgeKind : Reader Anchor := do
  if (← peek?) ≠ some '\x7b' then return .wordEdge
  let start ← get
  bumpSkipMore
  let c ← peek
  if !(c.isAlpha || c = '-') then
    set start
    return .wordEdge
  edgeName

/-- Reads an escape, from its backslash on. -/
def escape : Reader Primitive := do
  bump
  let c ← peek
  match c with
  | 'x' => hexEscape 2
  | 'u' => hexEscape 4
  | 'U' => hexEscape 8
  | 'p' => propertyEscape false
  | 'P' => propertyEscape true
  | _ =>
    bump
    if isEscapable c then return .literal c false
    match c with
    | 'd' => return .letter false .digit
    | 's' => return .letter false .space
    | 'w' => return .letter false .word
    | 'D' => return .letter true .digit
    | 'S' => return .letter true .space
    | 'W' => return .letter true .word
    | 'a' => return .literal '\x07' false
    | 'f' => return .literal '\x0c' false
    | 't' => return .literal '\t' false
    | 'n' => return .literal '\n' false
    | 'r' => return .literal '\r' false
    | 'v' => return .literal '\x0b' false
    | 'A' => return .anchor .textStart
    | 'z' => return .anchor .textEnd
    | 'b' => return .anchor (← edgeKind)
    | 'B' => return .anchor .noWordEdge
    | '<' => return .anchor .wordStart
    | '>' => return .anchor .wordEnd
    | _ => failure

/-- The classes that go by a name in `[:` and `:]`. -/
def asciiClass? (name : List Char) : Option CharSet :=
  let digit := (0x30, 0x39)
  let upper := (0x41, 0x5A)
  let lower := (0x61, 0x7A)
  let table : List (String × List (Nat × Nat)) :=
    [("alnum", [digit, upper, lower]), ("alpha", [upper, lower]), ("ascii", [(0, 0x7F)]),
      ("blank", [(9, 9), (0x20, 0x20)]), ("cntrl", [(0, 0x1F), (0x7F, 0x7F)]), ("digit", [digit]),
      ("graph", [(0x21, 0x7E)]), ("lower", [lower]), ("print", [(0x20, 0x7E)]),
      ("punct", [(0x21, 0x2F), (0x3A, 0x40), (0x5B, 0x60), (0x7B, 0x7E)]),
      ("space", [(9, 0xD), (0x20, 0x20)]), ("upper", [upper]),
      ("word", [digit, upper, (0x5F, 0x5F), lower]),
      ("xdigit", [digit, (0x41, 0x46), (0x61, 0x66)])]
  (table.find? fun e => e.1.toList = name).map fun e => .ranges e.2

/-- What closes a class's name, and what follows. -/
def afterName (negated : Bool) (set : CharSet) : List Char → Option (ClassNode × List Char)
  | ':' :: ']' :: after => some (.ascii negated set, after)
  | _ => none

/-- A class's name up to `:]`, and what follows. -/
def nameEnd (negated : Bool) (text : List Char) : Option (ClassNode × List Char) :=
  let name := text.takeWhile (· ≠ ':')
  (asciiClass? name).bind fun set => afterName negated set (text.drop name.length)

/-- Whether a class's name is negated, and the name with what follows. -/
def caret : List Char → Bool × List Char
  | '^' :: text => (true, text)
  | text => (false, text)

/-- A named class, and what follows. -/
def className : List Char → Option (ClassNode × List Char)
  | '[' :: ':' :: text => nameEnd (caret text).1 (caret text).2
  | _ => none

/-- Reads a named class, if one comes next; else reads nothing. -/
def namedClass? : Reader (Option ClassNode) := do
  let cursor ← get
  match className cursor.rest with
  | some (item, after) =>
    set { cursor with rest := after }
    return some item
  | none => return none

/-- Reads one end of a range, or an item that stands alone. -/
def classItem : Reader Primitive := do
  let c ← peek
  if c = '\\' then escape
  else
    bump
    return .literal c false

/-- Reads a range or an item of a class. -/
def classRange : Reader ClassNode := do
  let first ← classItem
  skip
  let c ← peek
  let next ← peekAfter?
  if c ≠ '-' || next = some ']' || next = some '-' then
    let some item := first.toClass? | failure
    return item
  bumpSkipMore
  match first, ← classItem with
  | .literal lo b1, .literal hi b2 =>
    require (lo ≤ hi)
    return .range lo hi (b1 || b2)
  | _, _ => failure

/-- Reads the hyphens with which a class may start. -/
def leadingHyphens : Nat → List ClassNode → Reader (List ClassNode)
  | 0, _ => failure
  | fuel + 1, items => do
    if (← peek) = '-' then
      bumpSkipMore
      leadingHyphens fuel (items ++ [.literal '-' false])
    else return items

/-- Reads the start of a class, from its bracket on: whether it is negated, and the hyphens or the
closing bracket that stand for themselves there. -/
def classStart : Reader (Bool × List ClassNode) := do
  bumpSkipMore
  let negated := (← peek) = '^'
  if negated then bumpSkipMore
  let items ← leadingHyphens ((← get).rest.length + 1) []
  if items.isEmpty && (← peek) = ']' then
    bumpSkipMore
    return (negated, [.literal ']' false])
  return (negated, items)

/-- The tree of the items of a class. -/
def ClassNode.ofItems : List ClassNode → ClassNode
  | [a] => a
  | items => union items

/-- What stands before an operator, and the operator. -/
abbrev Pending := Option (ClassOp × ClassNode)

/-- Joins what stands before an operator with what stands after it. -/
def Pending.close (pending : Pending) (items : List ClassNode) : ClassNode :=
  match pending with
  | none => ClassNode.ofItems items
  | some (kind, a) => .op kind a (ClassNode.ofItems items)

/-- Reads the inside of a class up to and with its closing bracket. Operators group to the left and
bind looser than writing side by side. -/
def classBody : Nat → Pending → List ClassNode → Reader ClassNode
  | 0, _, _ => failure
  | fuel + 1, pending, items => do
    skip
    let c ← peek
    if c = '[' then
      match ← namedClass? with
      | some item => classBody fuel pending (items ++ [item])
      | none =>
        let (negated, first) ← classStart
        let inside ← classBody fuel none first
        classBody fuel pending (items ++ [.bracket negated inside])
    else if c = ']' then
      bump
      return pending.close items
    else if ← eat "&&" then classBody fuel (some (.inter, pending.close items)) []
    else if ← eat "--" then classBody fuel (some (.diff, pending.close items)) []
    else if ← eat "~~" then classBody fuel (some (.symmDiff, pending.close items)) []
    else
      let item ← classRange
      classBody fuel pending (items ++ [item])

/-- Reads a bracketed class. -/
def bracketed : Reader Node := do
  let (negated, first) ← classStart
  let inside ← classBody ((← get).rest.length + 1) none first
  return .bracket negated inside

/-- Reads flags up to the colon or the closing parenthesis after them. -/
def flagChange : Nat → Option FlagChange → FlagChange → Reader FlagChange
  | 0, _, _ => failure
  | fuel + 1, on?, change => do
    let c ← peek
    if c = ':' || c = ')' then
      -- A hyphen needs a flag after it.
      require (on?.all fun on => on.length < change.length)
      return change
    else if c = '-' then
      require on?.isNone
      bump
      flagChange fuel (some change) change
    else
      let some flag := Flag.ofLetter? c | failure
      require (change.all fun f => f.1 ≠ flag)
      bump
      flagChange fuel on? (change ++ [(flag, on?.isNone)])

/-- Reads a group's name up to and with the closing angle bracket. -/
def groupName : Nat → List Char → Reader (List Char)
  | 0, _ => failure
  | fuel + 1, taken => do
    let c ← peek
    if c = '>' then
      bump
      return taken.reverse
    else
      let letter := Property.alphabetic.contains c.toNat
      let other := c = '.' || c = '[' || c = ']' ||
        (Property.category? ['n']).any fun number => number.contains c.toNat
      require (c = '_' || letter || (!taken.isEmpty && other))
      bump
      groupName fuel (c :: taken)

/-- Reads a number, around which blanks may stand. -/
def number : Nat → Option Nat → Reader Nat
  | 0, _ => failure
  | fuel + 1, n => do
    match ← peek? with
    | some c =>
      if c.isDigit then
        bumpSkip
        number fuel (some (n.getD 0 * 10 + (c.toNat - '0'.toNat)))
      else finish n
    | none => finish n
where
  finish : Option Nat → Reader Nat
    | some n => do require (n < UInt32.size); return n
    | none => failure

/-- Skips blanks, also where they count elsewhere. -/
def anyBlanks : Reader Unit := modify fun s => { s with rest := s.rest.dropWhile isBlank }

def paddedNumber : Reader Nat := do
  anyBlanks
  let n ← number ((← get).rest.length + 1) none
  anyBlanks
  skip
  return n

/-- Reads a repetition in braces, from the brace on. -/
def counted : Reader (Nat × Option Nat) := do
  bumpSkipMore
  let min ← paddedNumber
  let bounds ←
    if (← peek) = ',' then do
      bumpSkipMore
      if (← peek) = '\x7d' then pure (min, none)
      else do
        let max ← paddedNumber
        pure (min, some max)
    else pure (min, some min)
  require ((← peek?) = some '\x7d')
  bumpSkip
  if (← peek?) = some '?' then bump
  require (bounds.2.all (min ≤ ·))
  return bounds

/-- Puts a repetition on the last item; there must be one that can be repeated. -/
def repeatLast (items : List Node) (min : Nat) (max : Option Nat) : Reader (List Node) :=
  match items.getLast? with
  | none => failure
  | some .empty => failure
  | some (.flags _) => failure
  | some a => return items.dropLast ++ [.repeated a min max]

/-- Takes the question mark that makes a repetition lazy. -/
def lazyMark : Reader Unit := do
  bump
  if (← peek?) = some '?' then bump

def setVerbose (verbose : Bool) : Reader Unit := modify fun s => { s with verbose }

/-- Whether blanks are skipped after a change of flags. -/
def verboseAfter (change : FlagChange) : Reader Unit :=
  match change.find? fun f => f.1 = .verbose with
  | some f => setVerbose f.2
  | none => pure ()

/-- How a group starts, after its parenthesis. -/
inductive GroupStart where
  | group (change : FlagChange)
  | flags (change : FlagChange)

/-- Looking around does not belong to the language. -/
def noLookAround : Reader Unit := do
  for ahead in ["?=", "?!", "?<=", "?<!"] do
    if ← eat ahead then failure

/-- Reads a group's name and keeps it; no two groups have one name. -/
def newName : Reader Unit := do
  let name ← groupName ((← get).rest.length + 1) []
  let names := (← get).names
  require (!name.isEmpty && !names.contains name)
  modify fun s => { s with names := name :: s.names }

/-- Reads the flags that come next. -/
def flagsAhead : Reader FlagChange := do flagChange ((← get).rest.length + 1) none []

/-- Reads flags up to and with the colon, where a group follows, or the closing parenthesis. -/
def flagStart : Reader GroupStart := do
  let change ← flagsAhead
  let c ← peek
  bump
  if c = ')' then
    require (!change.isEmpty)
    return .flags change
  else return .group change

/-- Reads the name or the flags of a group. -/
def groupKind : Reader GroupStart := do
  let named ← if ← eat "?P<" then pure true else eat "?<"
  if named then
    newName
    return .group []
  else if ← eat "?" then flagStart
  else return .group []

/-- Reads the start of a group, from its parenthesis on. -/
def groupStart : Reader GroupStart := do
  bumpSkip
  noLookAround
  groupKind

/-- Takes the closing parenthesis of a group, after which blanks are treated as before it. -/
def closeGroup (verbose : Bool) : Reader Unit := do
  require ((← peek?) = some ')')
  bump
  setVerbose verbose

/-- Reads alternatives up to a closing parenthesis or the end. -/
def body : Nat → List Node → List Node → Reader Node
  | 0, _, _ => failure
  | fuel + 1, branches, items => do
    skip
    match ← peek? with
    | none => return Node.ofBranches (branches ++ [Node.ofItems items])
    | some ')' => return Node.ofBranches (branches ++ [Node.ofItems items])
    | some '|' =>
      bump
      body fuel (branches ++ [Node.ofItems items]) []
    | some '(' =>
      match ← groupStart with
      | .flags change =>
        verboseAfter change
        body fuel branches (items ++ [.flags change])
      | .group change =>
        let verbose := (← get).verbose
        verboseAfter change
        let inside ← body fuel [] []
        closeGroup verbose
        body fuel branches (items ++ [.group change inside])
    | some '[' =>
      let node ← bracketed
      body fuel branches (items ++ [node])
    | some '?' =>
      lazyMark
      body fuel branches (← repeatLast items 0 (some 1))
    | some '*' =>
      lazyMark
      body fuel branches (← repeatLast items 0 none)
    | some '+' =>
      lazyMark
      body fuel branches (← repeatLast items 1 none)
    | some '\x7b' =>
      let (min, max) ← counted
      body fuel branches (← repeatLast items min max)
    | some '\\' =>
      let p ← escape
      body fuel branches (items ++ [p.toNode])
    | some c =>
      bump
      let node : Node := match c with
        | '.' => .dot
        | '^' => .anchor .lineStart
        | '$' => .anchor .lineEnd
        | _ => .literal c false
      body fuel branches (items ++ [node])

/-- The deepest nesting of a pattern. -/
def maxDepth : Nat := 250

/-- Reads a whole pattern. -/
def Node.parse? (pattern : List Char) : Option Node := do
  let (node, cursor) ← (body (2 * pattern.length + 2) [] []).run ⟨pattern, false, []⟩
  if cursor.rest.isEmpty ∧ node.depth ≤ maxDepth then some node else none

end BuildQueue.Pattern
