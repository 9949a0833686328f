import BuildQueue.Json.Basic

/-!
# Reading values by their form

A record is read by the names of its fields: each comes at most once, other members are passed over,
and an array of exactly the fields in their order stands for the record. A choice goes by a tag,
whose place among the members does not matter.
-/

namespace BuildQueue

/-- The middle between the largest double and the power of two after it. -/
def JsonNumber.overflow : Nat := Nat.pow 2 1024 - Nat.pow 2 970

/-- Whether a number is in the range of double precision. -/
def JsonNumber.isFinite : JsonNumber → Bool
  | .natural n | .negative n => n < overflow
  | .decimal _ mantissa exponent =>
    let magnitude : Int := (Text.Decimal.digits mantissa).length + exponent
    if mantissa = 0 ∨ magnitude ≤ 300 then true
    else if 310 ≤ magnitude then false
    else
      match exponent with
      | .ofNat e => mantissa * Nat.pow 10 e < overflow
      | .negSucc e => mantissa < overflow * Nat.pow 10 (e + 1)

namespace Json

/-- Whether a value can be set aside before it is known what it is for: its strings are texts, its
numbers are in range, and it is nested at most `room` deep. -/
def isSound (room : Nat) : Json → Bool
  | null | bool _ => true
  | number n => n.isFinite
  | string s => s.isSome
  | array items =>
    match room with
    | 0 => false
    | room + 1 => elements room items
  | object fields =>
    match room with
    | 0 => false
    | room + 1 => members room fields
where
  elements (room : Nat) : List Json → Bool
    | [] => true
    | a :: rest => a.isSound room && elements room rest
  members (room : Nat) : List (JsonString × Json) → Bool
    | [] => true
    | (name, a) :: rest => name.isSome && a.isSound room && members room rest

def text? : Json → Option String
  | string s => s
  | _ => none

def bool? : Json → Option Bool
  | bool b => some b
  | _ => none

/-- A natural number below a bound. -/
def natBelow? (bound : Nat) : Json → Option Nat
  | number (.natural n) => if n < bound then some n else none
  | _ => none

def word? (j : Json) : Option UInt64 := (j.natBelow? UInt64.size).map UInt64.ofNat

def list? {α : Type} (read : Json → Option α) : Json → Option (List α)
  | array items => items.mapM read
  | _ => none

/-- A value that may be missing or null. -/
def optional? {α : Type} (read : Json → Option α) : Option Json → Option (Option α)
  | none | some null => some none
  | some j => (read j).map some

/-- The value of the first member of a name. -/
def member? (members : List (JsonString × Json)) (name : String) : Option Json :=
  (members.find? (·.1 = some name)).map Prod.snd

/-- Whether all names of members are texts and each of the given names comes at most once. -/
def namesFields (members : List (JsonString × Json)) (names : List String) : Bool :=
  members.all (·.1.isSome) && names.all fun name => members.countP (·.1 = some name) ≤ 1

/-- The fields of a record in the order of their names; `none` for a field that does not come. -/
def fields? (names : List String) : Json → Option (List (Option Json))
  | object members =>
    if namesFields members names then some (names.map (member? members)) else none
  | array items => if items.length = names.length then some (items.map some) else none
  | _ => none

/-- The name of a choice without content, alone or with a null. -/
def choice? : Json → Option String
  | string s => s
  | object [(name, null)] => name
  | _ => none

/-- How deep a text may be nested. -/
def maxNesting : Nat := 127

/-- The tag of a choice that is told by one of its members, or by the first element of an array, and
what is left without it. What is left is set aside before the tag says what it is, and lies `level`
deep. -/
def tagged? (tag : String) (level : Nat) : Json → Option (String × Json)
  | object members => do
    let rest := members.filter (·.1 ≠ some tag)
    if namesFields members [tag] && rest.all (·.2.isSound (maxNesting - level)) then
      return (← (← member? members tag).text?, object rest)
    else none
  | array (first :: rest) => do
    if rest.all (·.isSound (maxNesting - level)) then return (← first.text?, array rest) else none
  | _ => none

/-- The tag and the content of a choice that has a field for each. -/
def choiceWith? (tag content : String) (j : Json) : Option (String × Json) := do
  let [some tag, some content] ← j.fields? [tag, content] | none
  return (← tag.choice?, content)

end Json

end BuildQueue
