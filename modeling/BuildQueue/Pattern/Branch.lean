import BuildQueue.Pattern.Meaning

/-!
# Branch patterns

A branch pattern is a regular expression that is put between anchors before it is read, so that it
selects whole branch names.
-/

namespace BuildQueue

open Pattern

/-- The text of a pattern between anchors. -/
def BranchPattern.anchored (source : String) : List Char :=
  "^(?:".toList ++ source.toList ++ ")$".toList

/-- A branch pattern, as written and as read. -/
structure BranchPattern where
  source : String
  regex : Regex
  regex_eq : Regex.parse? (BranchPattern.anchored source) = some regex

namespace BranchPattern

/-- Reads a pattern. -/
def parse? (source : String) : Option BranchPattern :=
  match h : Regex.parse? (anchored source) with
  | some regex => some ⟨source, regex, h⟩
  | none => none

/-- A pattern is determined by its text. -/
theorem ext_source {p q : BranchPattern} (h : p.source = q.source) : p = q := by
  obtain ⟨s, r, hr⟩ := p
  obtain ⟨s', r', hr'⟩ := q
  cases h
  simpa using Option.some.inj (hr.symm.trans hr')

theorem parse?_source (p : BranchPattern) : parse? p.source = some p := by
  unfold parse?
  split
  · next r h => exact congrArg some (ext_source rfl)
  · next h => exact absurd (p.regex_eq.symm.trans h) (by simp)

/-- Whether the pattern selects a branch. -/
def selects (p : BranchPattern) (branch : String) : Bool :=
  p.regex.matchesWithin wordChars branch.toList.toArray

end BranchPattern

end BuildQueue
