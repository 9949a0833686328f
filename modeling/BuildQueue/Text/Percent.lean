import BuildQueue.Text.Hex
import BuildQueue.Text.Utf8

/-!
# Percent coding

`encode` leaves the unreserved characters `A-Z a-z 0-9 - _ . ~` and writes every other byte of the
UTF-8 form as `%` and two uppercase hexadecimal digits. `decode` takes digits of either case, and a
`%` that no two digits follow stands for itself.
-/

namespace BuildQueue.Text.Percent

/-- A character that is its own encoding. -/
def isUnreserved (c : Char) : Bool :=
  c.isAlphanum || c = '-' || c = '_' || c = '.' || c = '~'

/-- One byte as `%XX`. -/
def encodeByte (b : UInt8) : List Char := ['%', Hex.upper (Hex.ofByte b).1, Hex.upper (Hex.ofByte b).2]

/-- One character: itself if it is unreserved, else its bytes as `%XX`. -/
def encodeChar (c : Char) : List Char :=
  if isUnreserved c then [c] else (String.utf8EncodeChar c).flatMap encodeByte

/-- The percent form of a text. -/
def encode (s : String) : String := String.ofList (s.toList.flatMap encodeChar)

/-- The bytes that a percent form stands for. -/
def bytesOf : List Char → List UInt8
  | [] => []
  | '%' :: h :: l :: rest =>
    match Hex.digit? h, Hex.digit? l with
    | some a, some b => UInt8.ofNat (a.val * 16 + b.val) :: bytesOf rest
    | _, _ => String.utf8EncodeChar '%' ++ bytesOf (h :: l :: rest)
  | c :: rest => String.utf8EncodeChar c ++ bytesOf rest

/-- The text that a percent form stands for, if its bytes are text. -/
def decode (s : String) : Except Utf8.Fault String :=
  (Utf8.decode (bytesOf s.toList)).map String.ofList

end BuildQueue.Text.Percent
