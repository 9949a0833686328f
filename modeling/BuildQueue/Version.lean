import BuildQueue.Error
import BuildQueue.Text.Decimal
import BuildQueue.Text.DecimalDigit
import BuildQueue.Text.Fields

/-!
# Release versions and tags

Versions are ordered by their components. A release tag is `v`, and three runs of decimal digits
with dots between them; only runs of ASCII digits that fit into 64 bits have a version.
-/

namespace BuildQueue

open Text

/-- The component of a version that a release raises. -/
inductive Bump where
  | major
  | minor
  | patch
  deriving DecidableEq, Repr

namespace Bump

def all : List Bump := [major, minor, patch]

def name : Bump → String
  | major => "major"
  | minor => "minor"
  | patch => "patch"

def ofName? (s : String) : Option Bump := all.find? (·.name == s)

/-- Reads a component's name in any case. Lowering the ASCII letters is enough, since no other
character becomes a letter of one of the names. -/
def parse (s : String) : Except ParseError Bump :=
  match ofName? (String.ofList (s.toList.map Char.toLower)) with
  | some bump => .ok bump
  | none => .error (.unknownBump s)

end Bump

/-- A release version. -/
structure Version where
  major : UInt64
  minor : UInt64
  patch : UInt64
  deriving DecidableEq, Repr

namespace Version

/-- The order of versions: the first component that differs decides. -/
def cmp (a b : Version) : Ordering :=
  (compare a.major b.major).then ((compare a.minor b.minor).then (compare a.patch b.patch))

/-- The next version of a kind: the components below the raised one start again at zero. -/
def bump (v : Version) : Bump → Version
  | .major => ⟨v.major + 1, 0, 0⟩
  | .minor => ⟨v.major, v.minor + 1, 0⟩
  | .patch => ⟨v.major, v.minor, v.patch + 1⟩

/-- The components as digits. -/
def components (v : Version) : List (List Char) :=
  [v.major, v.minor, v.patch].map fun n => Decimal.digits n.toNat

/-- The version with dots between its components. -/
def text (v : Version) : String := String.ofList (Fields.join '.' v.components)

instance : ToString Version := ⟨text⟩

/-- The tag of the release. -/
def tag (v : Version) : String := "v" ++ v.text

/-- The branch on which later patches of the release are made. -/
def maintenanceBranch (v : Version) : String :=
  "release/" ++ String.ofList (Decimal.digits v.major.toNat) ++ "." ++
    String.ofList (Decimal.digits v.minor.toNat)

/-- The three runs of decimal digits of a release tag. -/
def tagRuns? (tag : String) : Option (List Char × List Char × List Char) :=
  match tag.toList with
  | 'v' :: rest =>
    match Fields.split '.' rest with
    | [a, b, c] =>
      if [a, b, c].all fun run => !run.isEmpty && run.all DecimalDigit.isDecimalDigit
      then some (a, b, c) else none
    | _ => none
  | _ => none

/-- Whether a tag names a release. -/
def isReleaseTag (tag : String) : Bool := (tagRuns? tag).isSome

/-- The version that a release tag names. -/
def ofTag? (tag : String) : Option Version := do
  let (a, b, c) ← tagRuns? tag
  return ⟨← Decimal.parseWord? a, ← Decimal.parseWord? b, ← Decimal.parseWord? c⟩

end Version

end BuildQueue
