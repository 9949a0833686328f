import BuildQueue.Kdl.Basic
import BuildQueue.Kdl.Text
import BuildQueue.Text.Decimal

/-!
# Tokens of documents

Blanks, comments between slash and star, and line breaks after a backslash separate tokens without
being any; a comment up to the end of a line ends that line.
-/

namespace BuildQueue.Kdl

inductive Token where
  | text (s : String)
  /-- A number or a keyword. -/
  | value (v : Value)
  | blockStart
  | blockEnd
  | typeStart
  | typeEnd
  | equals
  | semicolon
  | lineEnd
  /-- Leaves out what comes next. -/
  | skip
  deriving DecidableEq, Repr

/-- A token, and whether something separates it from the one before. -/
structure Lexeme where
  spaced : Bool
  token : Token
  deriving DecidableEq, Repr

namespace Token

/-- What follows a comment between slash and star, inside of `depth` further ones. -/
def afterComment? : Nat → List Char → Option (List Char)
  | 0, '*' :: '/' :: rest => some rest
  | depth + 1, '*' :: '/' :: rest => afterComment? depth rest
  | depth, '/' :: '*' :: rest => afterComment? (depth + 1) rest
  | depth, _ :: rest => afterComment? depth rest
  | _, [] => none

/-- What follows the end of a line. -/
def afterLine : List Char → List Char
  | [] => []
  | s@(_ :: rest) => (afterBreak? s).getD (afterLine rest)

/-- What follows blanks and comments within a line. -/
def afterBlanks? : Nat → List Char → Option (List Char)
  | 0, _ => none
  | fuel + 1, s =>
    match s with
    | '/' :: '*' :: rest => do afterBlanks? fuel (← afterComment? 0 rest)
    | c :: rest => if isSpace c then afterBlanks? fuel rest else some (c :: rest)
    | [] => some []

/-- What follows a backslash that carries a line on: nothing else stands on its line. -/
def afterContinuation? (s : List Char) : Option (List Char) := do
  match ← afterBlanks? (s.length + 1) s with
  | '/' :: '/' :: rest => return afterLine rest
  | [] => return []
  | s => afterBreak? s

/-- The largest magnitude of an integer. -/
def maxMagnitude : Nat := Nat.pow 2 127 - 1

/-- Reads a run of digits, which underscores may divide. -/
def digits? (base : Nat) (s : List Char) : Option (Nat × List Char) := do
  let digit? (c : Char) : Option (Fin 16) := (Text.Hex.digit? c).filter (·.val < base)
  let c :: _ := s | none
  let _ ← digit? c
  let (run, rest) := s.span fun c => c = '_' || (digit? c).isSome
  let n := (run.filterMap digit?).foldl (fun n d => n * base + d.val) 0
  if n ≤ maxMagnitude then return (n, rest) else none

/-- Reads a fraction, if one comes next. -/
def fraction? : List Char → Option (Bool × List Char)
  | '.' :: rest => (digits? 10 rest).map fun (_, rest) => (true, rest)
  | rest => some (false, rest)

/-- Reads an exponent, if one comes next. -/
def exponent? : List Char → Option (Bool × List Char)
  | 'e' :: '+' :: rest | 'e' :: '-' :: rest | 'E' :: '+' :: rest | 'E' :: '-' :: rest
  | 'e' :: rest | 'E' :: rest => (digits? 10 rest).map fun (_, rest) => (true, rest)
  | rest => some (false, rest)

/-- Reads a number after its sign; `s` is where the sign stands. -/
def unsigned? (s : List Char) (negative : Bool) (rest : List Char) :
    Option (Value × List Char) :=
  let signed (n : Nat) : Value := .integer (if negative then -(n : Int) else n)
  match rest with
  | '0' :: 'x' :: rest => (digits? 16 rest).map fun (n, rest) => (signed n, rest)
  | '0' :: 'o' :: rest => (digits? 8 rest).map fun (n, rest) => (signed n, rest)
  | '0' :: 'b' :: rest => (digits? 2 rest).map fun (n, rest) => (signed n, rest)
  | rest => do
    let (n, rest) ← digits? 10 rest
    let (isFraction, rest) ← fraction? rest
    let (hasExponent, rest) ← exponent? rest
    if isFraction || hasExponent then
      return (.real (String.ofList (s.take (s.length - rest.length))), rest)
    else return (signed n, rest)

def number? (s : List Char) : Option (Value × List Char) :=
  match s with
  | '+' :: rest => unsigned? s false rest
  | '-' :: rest => unsigned? s true rest
  | rest => unsigned? s false rest

/-- Reads a keyword after its hash sign. -/
def keyword? : List Char → Option (Value × List Char)
  | 't' :: 'r' :: 'u' :: 'e' :: rest => some (.boolean true, rest)
  | 'f' :: 'a' :: 'l' :: 's' :: 'e' :: rest => some (.boolean false, rest)
  | 'n' :: 'u' :: 'l' :: 'l' :: rest => some (.null, rest)
  | 'i' :: 'n' :: 'f' :: rest => some (.real "#inf", rest)
  | '-' :: 'i' :: 'n' :: 'f' :: rest => some (.real "#-inf", rest)
  | 'n' :: 'a' :: 'n' :: rest => some (.real "#nan", rest)
  | _ => none

/-- Reads a string, a number or a keyword. -/
def literal? (s : List Char) : Option (Token × List Char) :=
  match s with
  | '"' :: _ => (quoted? [] s).map fun (t, rest) => (.text t, rest)
  | '#' :: rest =>
    let (hashes, rest') := s.span (· = '#')
    if rest'.head? = some '"' then (quoted? hashes rest').map fun (t, rest) => (.text t, rest)
    else (keyword? rest).map fun (v, rest) => (.value v, rest)
  | _ =>
    match word? s with
    | some (w, rest) => some (.text w, rest)
    | none => (number? s).map fun (v, rest) => (.value v, rest)

/-- The tokens of one character. -/
def punctuation? : Char → Option Token
  | '\x7b' => some blockStart
  | '\x7d' => some blockEnd
  | '(' => some typeStart
  | ')' => some typeEnd
  | '=' => some equals
  | ';' => some semicolon
  | _ => none

/-- The tokens of a text; `spaced` says whether something separates the first from what came
before. -/
def scan : Nat → Bool → List Char → Option (List Lexeme)
  | 0, _, _ => none
  | fuel + 1, spaced, s =>
    let one (t : Token) (rest : List Char) : Option (List Lexeme) :=
      (scan fuel false rest).map (⟨spaced, t⟩ :: ·)
    match s with
    | [] => some []
    | '/' :: '/' :: rest => one lineEnd (afterLine rest)
    | '/' :: '*' :: rest => do scan fuel true (← afterComment? 0 rest)
    | '/' :: '-' :: rest => one skip rest
    | '\\' :: rest => do scan fuel true (← afterContinuation? rest)
    | c :: rest =>
      match afterBreak? s, punctuation? c with
      | some rest, _ => one lineEnd rest
      | none, some t => one t rest
      | none, none =>
        if isSpace c then scan fuel true rest
        else do
          let (t, rest) ← literal? s
          one t rest

end Token

/-- The tokens of a document, which a byte order mark may open. -/
def lexemes? (text : String) : Option (List Lexeme) :=
  let s := match text.toList with
    | '\ufeff' :: rest => rest
    | s => s
  Token.scan (s.length + 1) false s

end BuildQueue.Kdl
