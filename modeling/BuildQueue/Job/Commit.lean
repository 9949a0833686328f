import BuildQueue.Error
import BuildQueue.Text.Hex

/-!
# Commit ids

A commit id is the full name of a Git object: 40 or 64 hexadecimal digits. It is read in either
case and always written in lowercase, so the digits are its value.
-/

namespace BuildQueue

open Text (Hex.lower Hex.digit? Hex.digit?_lower)

/-- The name of a Git object. -/
structure CommitId where
  digits : List (Fin 16)
  length_eq : digits.length = 40 ∨ digits.length = 64
  deriving DecidableEq, Repr

namespace CommitId

/-- The digits in lowercase. -/
def chars (c : CommitId) : List Char := c.digits.map Hex.lower

/-- The written form. -/
def text (c : CommitId) : String := String.ofList c.chars

instance : ToString CommitId := ⟨text⟩

/-- The first seven digits, for messages to people. -/
def short (c : CommitId) : String := String.ofList (c.chars.take 7)

/-- Reads 40 or 64 hexadecimal digits. -/
def ofChars? (s : List Char) : Option CommitId :=
  match s.mapM Hex.digit? with
  | some digits =>
    if h : digits.length = 40 ∨ digits.length = 64 then some ⟨digits, h⟩ else none
  | none => none

/-- Reads a commit id. -/
def parse (s : String) : Except ParseError CommitId :=
  match ofChars? s.toList with
  | some c => .ok c
  | none => .error (.malformedCommit s)

theorem mapM_digit?_lower (ds : List (Fin 16)) :
    (ds.map Hex.lower).mapM Hex.digit? = some ds := by
  induction ds with
  | nil => rfl
  | cons d ds ih => rw [List.map_cons, List.mapM_cons, Hex.digit?_lower, ih]; rfl

theorem ofChars?_chars (c : CommitId) : ofChars? c.chars = some c := by
  rw [ofChars?, chars, mapM_digit?_lower]
  simp [c.length_eq]

end CommitId

end BuildQueue
