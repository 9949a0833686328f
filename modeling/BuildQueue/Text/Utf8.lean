/-!
# UTF-8 with located faults

`decode` reads bytes as text and, where they are no text, says where the valid part ends and how
many bytes are to blame. `encode` is its inverse on text.
-/

namespace BuildQueue.Text.Utf8

/-- Where and how a byte sequence stops being text. -/
structure Fault where
  /-- Length in bytes of the longest valid beginning. -/
  validUpTo : Nat
  /-- Number of bytes that no character starts with, or `none` when the bytes merely stop
  inside a character. -/
  badLength : Option Nat
  deriving DecidableEq, Repr

/-- The text of a fault. -/
def Fault.message (f : Fault) : String :=
  match f.badLength with
  | some n =>
    "invalid utf-8 sequence of " ++ toString n ++ " bytes from index " ++ toString f.validUpTo
  | none => "incomplete utf-8 byte sequence from index " ++ toString f.validUpTo

/-- The bytes of a text. -/
def encode (s : List Char) : List UInt8 := s.flatMap String.utf8EncodeChar

/-- A byte that may stand after the first one of a character. -/
def isContinuation (b : UInt8) : Bool := 0x80 ≤ b && b ≤ 0xBF

/-- The bytes that may follow a first byte `b`, so that overlong forms, surrogates and values
past the last code point are refused at the second byte. -/
def isSecond (b second : UInt8) : Bool :=
  if b = 0xE0 then 0xA0 ≤ second && second ≤ 0xBF
  else if b = 0xED then 0x80 ≤ second && second ≤ 0x9F
  else if b = 0xF0 then 0x90 ≤ second && second ≤ 0xBF
  else if b = 0xF4 then 0x80 ≤ second && second ≤ 0x8F
  else isContinuation second

/-- How many bytes a character takes that starts with `b`; `0` if none does. -/
def width (b : UInt8) : Nat :=
  if b < 0x80 then 1
  else if b < 0xC2 then 0
  else if b < 0xE0 then 2
  else if b < 0xF0 then 3
  else if b < 0xF5 then 4
  else 0

/-- The six low bits of a continuation byte. -/
def payload (b : UInt8) : Nat := b.toNat % 64

/-- Reads bytes as text; `start` is the number of bytes read before them. -/
def decodeFrom (start : Nat) : List UInt8 → Except Fault (List Char)
  | [] => .ok []
  | b0 :: t0 =>
    match width b0 with
    | 1 => (decodeFrom (start + 1) t0).map (Char.ofNat b0.toNat :: ·)
    | 2 =>
      match t0 with
      | [] => .error ⟨start, none⟩
      | b1 :: t1 =>
        if isContinuation b1 then
          (decodeFrom (start + 2) t1).map (Char.ofNat (b0.toNat % 32 * 64 + payload b1) :: ·)
        else .error ⟨start, some 1⟩
    | 3 =>
      match t0 with
      | [] => .error ⟨start, none⟩
      | b1 :: t1 =>
        if isSecond b0 b1 then
          match t1 with
          | [] => .error ⟨start, none⟩
          | b2 :: t2 =>
            if isContinuation b2 then
              (decodeFrom (start + 3) t2).map
                (Char.ofNat (b0.toNat % 16 * 4096 + payload b1 * 64 + payload b2) :: ·)
            else .error ⟨start, some 2⟩
        else .error ⟨start, some 1⟩
    | 4 =>
      match t0 with
      | [] => .error ⟨start, none⟩
      | b1 :: t1 =>
        if isSecond b0 b1 then
          match t1 with
          | [] => .error ⟨start, none⟩
          | b2 :: t2 =>
            if isContinuation b2 then
              match t2 with
              | [] => .error ⟨start, none⟩
              | b3 :: t3 =>
                if isContinuation b3 then
                  (decodeFrom (start + 4) t3).map
                    (Char.ofNat (b0.toNat % 8 * 262144 + payload b1 * 4096 + payload b2 * 64 +
                      payload b3) :: ·)
                else .error ⟨start, some 3⟩
            else .error ⟨start, some 2⟩
        else .error ⟨start, some 1⟩
    | _ => .error ⟨start, some 1⟩

/-- Reads bytes as text. -/
def decode (bytes : List UInt8) : Except Fault (List Char) := decodeFrom 0 bytes

end BuildQueue.Text.Utf8
