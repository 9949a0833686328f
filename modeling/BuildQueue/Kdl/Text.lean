import BuildQueue.Text.Hex

/-!
# Strings in documents

A string is a bare word, stands in quotes, where backslashes escape, or stands in quotes with hash
signs around them, where they do not. Three quotes open a string over several lines: the blanks
before the closing quotes are the indent, which every line that is not blank has and loses.
-/

namespace BuildQueue.Kdl

/-- A blank within a line. -/
def isSpace (c : Char) : Bool :=
  c = '\t' || c = ' ' || c = '\u00a0' || c = '\u1680' || ('\u2000' ≤ c && c ≤ '\u200a') ||
    c = '\u202f' || c = '\u205f' || c = '\u3000'

def isBreak (c : Char) : Bool :=
  ('\n' ≤ c && c ≤ '\r') || c = '\u0085' || c = '\u2028' || c = '\u2029'

/-- A control or a mark of direction, which a document does not contain outside of comments. -/
def isForbidden (c : Char) : Bool :=
  c ≤ '\x08' || ('\x0e' ≤ c && c ≤ '\x1f') || c = '\x7f' || c = '\u200e' || c = '\u200f' ||
    ('\u202a' ≤ c && c ≤ '\u202e') || ('\u2066' ≤ c && c ≤ '\u2069') || c = '\ufeff'

/-- What follows a line break at the front. A carriage return and a line feed are one break. -/
def afterBreak? : List Char → Option (List Char)
  | '\r' :: '\n' :: rest => some rest
  | c :: rest => if isBreak c then some rest else none
  | [] => none

/-- A character of a bare word. -/
def isWordChar (c : Char) : Bool :=
  !(isSpace c || isBreak c || isForbidden c || "\\/()\x7b\x7d;[]\"#=".toList.contains c)

/-- The words that would be taken for values if they stood bare. -/
def reservedWords : List String := ["true", "false", "null", "inf", "nan"]

/-- A part of a string in quotes. -/
inductive Piece where
  | literal (c : Char)
  | escaped (c : Char)
  | lineBreak
  deriving DecidableEq, Repr

namespace Piece

def isBlank : Piece → Bool
  | literal c => isSpace c
  | _ => false

/-- The characters of pieces of one line. -/
def chars : List Piece → Option (List Char)
  | [] => some []
  | literal c :: rest | escaped c :: rest => (chars rest).map (c :: ·)
  | lineBreak :: _ => none

/-- The lines of pieces and the last line, which nothing ends. -/
def lines : List Piece → List (List Piece) × List Piece
  | [] => ([], [])
  | lineBreak :: rest =>
    let (before, last) := lines rest
    ([] :: before, last)
  | p :: rest =>
    match lines rest with
    | ([], last) => ([], p :: last)
    | (line :: before, last) => ((p :: line) :: before, last)

/-- What follows the indent of a line; its blanks count only as themselves. -/
def afterIndent? : List Piece → List Piece → Option (List Piece)
  | [], line => some line
  | i :: indent, p :: line => if i = p then afterIndent? indent line else none
  | _ :: _, [] => none

/-- The characters of a line without its indent; a blank line has none. -/
def lineChars? (indent line : List Piece) : Option (List Char) :=
  if line.all isBlank then some [] else (afterIndent? indent line).bind chars

/-- The characters of a string over several lines. -/
def block? (pieces : List Piece) : Option (List Char) :=
  let (before, indent) := lines pieces
  if indent.all isBlank then
    (before.mapM (lineChars? indent)).map fun ls => ['\n'].intercalate ls
  else none

end Piece

/-- Reads a code point of one to six hexadecimal digits and a closing brace. -/
def codePoint? (s : List Char) : Option (Char × List Char) := do
  let (digits, rest) := s.span fun c => (Text.Hex.digit? c).isSome
  let '\x7d' :: rest := rest | none
  let ds ← digits.mapM Text.Hex.digit?
  if 1 ≤ ds.length ∧ ds.length ≤ 6 ∧ (Text.Hex.valueOf ds).isValidChar then
    return (Char.ofNat (Text.Hex.valueOf ds), rest)
  else none

/-- What a letter after a backslash stands for. -/
def unescape? : Char → Option Char
  | '\\' => some '\\'
  | '"' => some '"'
  | 'b' => some '\x08'
  | 'f' => some '\x0c'
  | 'n' => some '\n'
  | 'r' => some '\r'
  | 's' => some ' '
  | 't' => some '\t'
  | _ => none

/-- Reads what follows a backslash; blanks and line breaks stand for nothing. -/
def escape? : List Char → Option (List Piece × List Char)
  | 'u' :: '\x7b' :: rest => (codePoint? rest).map fun (c, rest) => ([.escaped c], rest)
  | c :: rest =>
    if isSpace c || isBreak c then
      some ([], rest.dropWhile fun c => isSpace c || isBreak c)
    else (unescape? c).map fun c => ([.escaped c], rest)
  | [] => none

/-- Reads pieces up to and with the closing mark. -/
def pieces? (escapes : Bool) (closing : List Char) :
    Nat → List Char → Option (List Piece × List Char)
  | 0, _ => none
  | fuel + 1, s =>
    if closing.isPrefixOf s then some ([], s.drop closing.length)
    else
      match afterBreak? s, s with
      | some rest, _ => do
        let (ps, rest) ← pieces? escapes closing fuel rest
        return (.lineBreak :: ps, rest)
      | none, c :: rest =>
        if escapes && c = '\\' then do
          let (p, rest) ← escape? rest
          let (ps, rest) ← pieces? escapes closing fuel rest
          return (p ++ ps, rest)
        else if isForbidden c then none
        else do
          let (ps, rest) ← pieces? escapes closing fuel rest
          return (.literal c :: ps, rest)
      | none, [] => none

/-- Reads a string after its hash signs, of which there are none if backslashes escape. -/
def quoted? (hashes : List Char) (s : List Char) : Option (String × List Char) :=
  let escapes := hashes.isEmpty
  match s with
  | '"' :: '"' :: '"' :: rest => do
    let rest ← afterBreak? rest
    let (ps, rest) ← pieces? escapes ('"' :: '"' :: '"' :: hashes) (rest.length + 1) rest
    return (String.ofList (← Piece.block? ps), rest)
  | '"' :: rest => do
    let (ps, rest) ← pieces? escapes ('"' :: hashes) (rest.length + 1) rest
    return (String.ofList (← Piece.chars ps), rest)
  | _ => none

/-- Reads a bare word, which does not start like a number. -/
def word? (s : List Char) : Option (String × List Char) :=
  let (word, rest) := s.span isWordChar
  let unsigned := match word with
    | '+' :: cs | '-' :: cs => cs
    | cs => cs
  let numeric := match unsigned with
    | '.' :: c :: _ => c.isDigit
    | c :: _ => c.isDigit
    | [] => false
  if word.isEmpty || numeric || reservedWords.contains (String.ofList word) then none
  else some (String.ofList word, rest)

end BuildQueue.Kdl
