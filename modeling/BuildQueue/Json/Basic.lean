import BuildQueue.Text.Decimal
import BuildQueue.Text.Hex

/-!
# JSON values

A value keeps its members in order and with repetitions, since a reader of a record refuses a
member that comes twice. Numbers keep the form in which they were written.
-/

namespace BuildQueue

/-- A number as written. -/
inductive JsonNumber where
  /-- A natural number without sign, point or exponent. -/
  | natural (n : Nat)
  /-- The negative of a natural number other than zero. -/
  | negative (n : Nat)
  /-- A number with a point or an exponent, or negative zero: `mantissa · 10 ^ exponent`. -/
  | decimal (isNegative : Bool) (mantissa : Nat) (exponent : Int)
  deriving DecidableEq, Repr

/-- A string as written; half of a surrogate pair leaves it without a text. -/
abbrev JsonString := Option String

inductive Json where
  | null
  | bool (b : Bool)
  | number (n : JsonNumber)
  | string (s : JsonString)
  | array (items : List Json)
  | object (members : List (JsonString × Json))
  deriving Repr, Inhabited

namespace Json

def text (s : String) : Json := string (some s)

def nat (n : Nat) : Json := number (.natural n)

def int : Int → Json
  | .ofNat n => number (.natural n)
  | .negSucc n => number (.negative (n + 1))

/-- A record with members in the given order. -/
def record (members : List (String × Json)) : Json :=
  object (members.map fun (name, value) => (some name, value))

def option {α : Type} (form : α → Json) : Option α → Json
  | some a => form a
  | none => null

/-- One character of a string: quote, backslash and controls are escaped. -/
def escape (c : Char) : List Char :=
  if c = '"' then ['\\', '"']
  else if c = '\\' then ['\\', '\\']
  else if c = '\x08' then ['\\', 'b']
  else if c = '\x0c' then ['\\', 'f']
  else if c = '\n' then ['\\', 'n']
  else if c = '\r' then ['\\', 'r']
  else if c = '\t' then ['\\', 't']
  else if c.toNat < 0x20 then
    let digits := Text.Hex.ofByte c.toNat.toUInt8
    ['\\', 'u', '0', '0', Text.Hex.lower digits.1, Text.Hex.lower digits.2]
  else [c]

def quoted (s : String) : List Char := '"' :: (s.toList.flatMap escape ++ ['"'])

def JsonNumber.chars : JsonNumber → List Char
  | .natural n => Text.Decimal.digits n
  | .negative n => '-' :: Text.Decimal.digits n
  | .decimal isNegative mantissa exponent =>
    (if isNegative then ['-'] else []) ++ Text.Decimal.digits mantissa ++ 'e' ::
      (match exponent with
        | .ofNat n => Text.Decimal.digits n
        | .negSucc n => '-' :: Text.Decimal.digits (n + 1))

/-- The text of a value without blanks. -/
def chars : Json → List Char
  | null => "null".toList
  | bool b => (if b then "true" else "false").toList
  | number n => JsonNumber.chars n
  | string s => quoted (s.getD "")
  | array items => '[' :: (elements items ++ [']'])
  | object fields => '\x7b' :: (members fields ++ ['\x7d'])
where
  elements : List Json → List Char
    | [] => []
    | [a] => a.chars
    | a :: rest => a.chars ++ ',' :: elements rest
  members : List (JsonString × Json) → List Char
    | [] => []
    | [(name, a)] => quoted (name.getD "") ++ ':' :: a.chars
    | (name, a) :: rest => quoted (name.getD "") ++ ':' :: (a.chars ++ ',' :: members rest)

/-- The text of a value without blanks. -/
def compact (j : Json) : String := String.ofList j.chars

/-- The text of a value over lines, with two blanks for each level; empty arrays and records stay
on one line. -/
def prettyChars (indent : Nat) : Json → List Char
  | array [] => ['[', ']']
  | object [] => ['\x7b', '\x7d']
  | array (a :: rest) =>
    '[' :: (elements (indent + 2) (a :: rest) ++ '\n' :: (List.replicate indent ' ' ++ [']']))
  | object (m :: rest) =>
    '\x7b' ::
      (members (indent + 2) (m :: rest) ++ '\n' :: (List.replicate indent ' ' ++ ['\x7d']))
  | j => j.chars
where
  elements (indent : Nat) : List Json → List Char
    | [] => []
    | [a] => '\n' :: (List.replicate indent ' ' ++ a.prettyChars indent)
    | a :: rest =>
      '\n' :: (List.replicate indent ' ' ++ a.prettyChars indent ++ ',' :: elements indent rest)
  members (indent : Nat) : List (JsonString × Json) → List Char
    | [] => []
    | [(name, a)] => member indent name a
    | (name, a) :: rest => member indent name a ++ ',' :: members indent rest
  member (indent : Nat) (name : JsonString) (a : Json) : List Char :=
    '\n' :: (List.replicate indent ' ' ++ quoted (name.getD "") ++ ':' :: ' ' ::
      a.prettyChars indent)

/-- The text of a value over lines. -/
def pretty (j : Json) : String := String.ofList (j.prettyChars 0)

end Json

end BuildQueue
