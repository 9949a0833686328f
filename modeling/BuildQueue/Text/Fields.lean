/-!
# Separated fields

A line of fields with one separator character between them. `split` gives back exactly what `join`
was given, as long as no field holds the separator.
-/

namespace BuildQueue.Text.Fields

/-- The parts of a text between the occurrences of `sep`; there is always at least one. -/
def split (sep : Char) : List Char → List (List Char)
  | [] => [[]]
  | c :: cs =>
    if c = sep then [] :: split sep cs
    else
      match split sep cs with
      | [] => [[c]]
      | field :: rest => (c :: field) :: rest

/-- Writes fields with `sep` between them. -/
def join (sep : Char) : List (List Char) → List Char
  | [] => []
  | [field] => field
  | field :: rest => field ++ sep :: join sep rest

theorem split_ne_nil (sep : Char) (s : List Char) : split sep s ≠ [] := by
  cases s with
  | nil => simp [split]
  | cons c cs =>
    unfold split
    split
    · simp
    · split <;> simp

theorem join_split (sep : Char) (s : List Char) : join sep (split sep s) = s := by
  induction s with
  | nil => rfl
  | cons c cs ih =>
    unfold split
    split
    · next h =>
      obtain ⟨f, r, hf⟩ := List.exists_cons_of_ne_nil (split_ne_nil sep cs)
      rw [hf] at ih ⊢
      simp [join, h, ih]
    · next h =>
      obtain ⟨f, r, hf⟩ := List.exists_cons_of_ne_nil (split_ne_nil sep cs)
      rw [hf] at ih ⊢
      cases r with
      | nil => simpa [join] using ih
      | cons g r => simpa [join] using ih

end BuildQueue.Text.Fields
