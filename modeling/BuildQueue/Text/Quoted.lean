import BuildQueue.Text.Printable

/-!
# Quoted text

Text as messages show it: in double quotes, on one line, with every character that has no visible
form of its own written as its code point.
-/

namespace BuildQueue.Text.Quoted

/-- A code point as `\u` and lowercase hexadecimal digits in braces. -/
def codePoint (c : Char) : List Char :=
  '\\' :: 'u' :: '\x7b' :: (Nat.toDigits 16 c.toNat ++ ['\x7d'])

/-- One character inside the quotes. -/
def escape (c : Char) : List Char :=
  if c = '\x00' then ['\\', '0']
  else if c = '\t' then ['\\', 't']
  else if c = '\n' then ['\\', 'n']
  else if c = '\r' then ['\\', 'r']
  else if c = '"' then ['\\', '"']
  else if c = '\\' then ['\\', '\\']
  else if Printable.isExtending c || !Printable.isPrintable c then codePoint c
  else [c]

/-- The quoted form of a text. -/
def quote (s : String) : String := String.ofList ('"' :: (s.toList.flatMap escape ++ ['"']))

end BuildQueue.Text.Quoted
