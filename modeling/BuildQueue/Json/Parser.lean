import BuildQueue.Json.Basic
import BuildQueue.Text.Hex

/-!
# Reading JSON text

Each reader takes the text that is left and gives back what it read and the text after it.
-/

namespace BuildQueue.Json

/-- The blanks between the parts of a value. -/
def isBlank (c : Char) : Bool := c = ' ' || c = '\t' || c = '\n' || c = '\r'

def skipBlanks (s : List Char) : List Char := s.dropWhile isBlank

/-- The unit that four hexadecimal digits stand for. -/
def unit? (a b c d : Char) : Option Nat :=
  ([a, b, c, d].mapM Text.Hex.digit?).map Text.Hex.valueOf

/-- What a letter after a backslash stands for. -/
def unescape? : Char → Option Char
  | '"' => some '"'
  | '\\' => some '\\'
  | '/' => some '/'
  | 'b' => some '\x08'
  | 'f' => some '\x0c'
  | 'n' => some '\n'
  | 'r' => some '\r'
  | 't' => some '\t'
  | _ => none

/-- A code point or half of a surrogate pair. -/
abbrev Unit16 := Nat

/-- The text of a list of code points, where two halves of a pair in a row are one character; `none`
if a half stands alone. -/
def join? : List Unit16 → Option (List Char)
  | [] => some []
  | u :: rest =>
    if 0xD800 ≤ u ∧ u < 0xDC00 then
      match rest with
      | v :: rest =>
        if 0xDC00 ≤ v ∧ v < 0xE000 then
          (join? rest).map (Char.ofNat (0x10000 + (u - 0xD800) * 0x400 + (v - 0xDC00)) :: ·)
        else none
      | [] => none
    else if 0xDC00 ≤ u ∧ u < 0xE000 then none
    else (join? rest).map (Char.ofNat u :: ·)

/-- Reads the rest of a string after its opening quote; `taken` holds what was read, last first. -/
def stringBody (taken : List Unit16) : List Char → Option (JsonString × List Char)
  | [] => none
  | '"' :: rest => some ((join? taken.reverse).map String.ofList, rest)
  | '\\' :: 'u' :: a :: b :: c :: d :: rest =>
    match unit? a b c d with
    | some u => stringBody (u :: taken) rest
    | none => none
  | '\\' :: c :: rest =>
    match unescape? c with
    | some c => stringBody (c.toNat :: taken) rest
    | none => none
  | c :: rest => if c.toNat < 0x20 then none else stringBody (c.toNat :: taken) rest

/-- Reads the digits at the front. -/
def digits (s : List Char) : List Char × List Char := s.span Char.isDigit

/-- Reads a fraction, if one comes next: a point and at least one digit. -/
def fraction? : List Char → Option (Option (List Char) × List Char)
  | '.' :: rest =>
    match digits rest with
    | ([], _) => none
    | (ds, rest) => some (some ds, rest)
  | rest => some (none, rest)

/-- Reads the digits of an exponent after its sign. -/
def exponentDigits? (isNegative : Bool) (s : List Char) : Option (Int × List Char) :=
  match digits s with
  | ([], _) => none
  | (ds, rest) =>
    let n := Text.Decimal.valueOf ds
    some (if isNegative then -(n : Int) else n, rest)

/-- Reads an exponent, if one comes next. -/
def exponent? : List Char → Option (Option Int × List Char)
  | c :: rest =>
    if c = 'e' ∨ c = 'E' then
      let read := match rest with
        | '+' :: r => exponentDigits? false r
        | '-' :: r => exponentDigits? true r
        | r => exponentDigits? false r
      read.map fun (e, rest) => (some e, rest)
    else some (none, c :: rest)
  | [] => some (none, [])

/-- Reads a number after its sign. A number of several digits does not start with zero. -/
def numberBody (isNegative : Bool) (s : List Char) : Option (JsonNumber × List Char) := do
  let (whole, rest) := digits s
  if whole = [] ∨ (whole.head? = some '0' ∧ whole.length > 1) then none
  let (fraction, rest) ← fraction? rest
  let (exponent, rest) ← exponent? rest
  let n := Text.Decimal.valueOf whole
  match fraction, exponent with
  | none, none =>
    if isNegative then
      if n = 0 then return (.decimal true 0 0, rest) else return (.negative n, rest)
    else return (.natural n, rest)
  | _, _ =>
    let ds := fraction.getD []
    return (.decimal isNegative (Text.Decimal.valueOf (whole ++ ds))
      (exponent.getD 0 - ds.length), rest)

mutual

/-- Reads a value. -/
def value? : Nat → List Char → Option (Json × List Char)
  | 0, _ => none
  | fuel + 1, s =>
    match skipBlanks s with
    | 'n' :: 'u' :: 'l' :: 'l' :: rest => some (.null, rest)
    | 't' :: 'r' :: 'u' :: 'e' :: rest => some (.bool true, rest)
    | 'f' :: 'a' :: 'l' :: 's' :: 'e' :: rest => some (.bool false, rest)
    | '"' :: rest => (stringBody [] rest).map fun (s, rest) => (.string s, rest)
    | '-' :: rest => (numberBody true rest).map fun (n, rest) => (.number n, rest)
    | '[' :: rest =>
      match skipBlanks rest with
      | ']' :: rest => some (.array [], rest)
      | rest => (elements? fuel [] rest).map fun (items, rest) => (.array items, rest)
    | '\x7b' :: rest =>
      match skipBlanks rest with
      | '\x7d' :: rest => some (.object [], rest)
      | rest => (members? fuel [] rest).map fun (members, rest) => (.object members, rest)
    | rest => (numberBody false rest).map fun (n, rest) => (.number n, rest)

/-- Reads the elements of an array up to and with its closing bracket. -/
def elements? : Nat → List Json → List Char → Option (List Json × List Char)
  | 0, _, _ => none
  | fuel + 1, taken, s =>
    match value? fuel s with
    | none => none
    | some (item, rest) =>
      match skipBlanks rest with
      | ',' :: rest => elements? fuel (item :: taken) rest
      | ']' :: rest => some ((item :: taken).reverse, rest)
      | _ => none

/-- Reads the members of a record up to and with its closing brace. -/
def members? : Nat → List (JsonString × Json) → List Char →
    Option (List (JsonString × Json) × List Char)
  | 0, _, _ => none
  | fuel + 1, taken, s =>
    match skipBlanks s with
    | '"' :: rest =>
      match stringBody [] rest with
      | none => none
      | some (name, rest) =>
        match skipBlanks rest with
        | ':' :: rest =>
          match value? fuel rest with
          | none => none
          | some (item, rest) =>
            match skipBlanks rest with
            | ',' :: rest => members? fuel ((name, item) :: taken) rest
            | '\x7d' :: rest => some (((name, item) :: taken).reverse, rest)
            | _ => none
        | _ => none
    | _ => none

end

/-- Reads a text that holds one value and nothing else. -/
def parse? (s : String) : Option Json :=
  let cs := s.toList
  match value? (cs.length + 1) cs with
  | some (j, rest) => if (skipBlanks rest).isEmpty then some j else none
  | none => none

end BuildQueue.Json
